import SchemaScript.Order.Queue
import SchemaScript.Script.ForeignKey
import SchemaScript.Script.Index
import SchemaScript.Script.Sequence
import SchemaScript.Script.Table

/-! The script of a schema.

Sequences come first, by name. Then each table in order, followed by its indexes, and last the
foreign keys of all tables, so that every statement names only what exists by then. What a
statement defines is a `Subject`; the script is the list of subjects, each with its text. -/
namespace SchemaScript

/-- Something that one statement defines. A table comes with its key in the schema. -/
inductive Subject where
  | sequence (q : Sequence)
  | table (key : String) (t : Table)
  | index (key : String) (t : Table) (i : Index)
  | foreignKey (key : String) (t : Table) (k : ForeignKey)

structure Statement where
  subject : Subject
  text : String

namespace Subject

/-- The run that writes the statement of a subject. -/
def write (cfg : Config) (s : Schema) : Subject → Run String
  | sequence q => q.create cfg
  | table _ t => t.create cfg s
  | index _ t i => i.create cfg t
  | foreignKey _ t k => k.add cfg s t

def render (cfg : Config) (s : Schema) (x : Subject) : Run Statement := do
  let text ← x.write cfg s
  pure ⟨x, text⟩

end Subject

namespace Script

def sequenceSubjects (sequences : Keyed Sequence) : List Subject :=
  (sequences.values.mergeSort Sequence.before).map .sequence

/-- A table and its indexes. -/
def tableSubjects (e : String × Table) : List Subject :=
  .table e.1 e.2 :: e.2.indexes.map (.index e.1 e.2)

def foreignKeySubjects (e : String × Table) : List Subject :=
  e.2.foreignKeys.map (.foreignKey e.1 e.2)

/-- Everything but the sequences, for tables in the given order. -/
def orderedSubjects (cfg : Config) (order : List (String × Table)) : List Subject :=
  (if cfg.tables then order.flatMap tableSubjects else []) ++
    (if cfg.foreignKeys then order.flatMap foreignKeySubjects else [])

/-- Putting the tables in order, which is reported only if it succeeds. -/
def arrange (s : Schema) : Run (List (String × Table)) := do
  let order ← Run.ofExcept s.inOrder
  Run.emit (.ordered (s.byName.map fun e => e.2.name))
  pure order

/-- The whole script, or the first fault in the order of writing. The tables are put in order even
if none of them is to be written. -/
def generate (cfg : Config) (s : Schema) (sequences : Keyed Sequence) : Run (List Statement) := do
  let first ← Run.each (Subject.render cfg s) (sequenceSubjects sequences)
  let order ← arrange s
  let rest ← Run.each (Subject.render cfg s) (orderedSubjects cfg order)
  let script := first ++ rest
  Run.emit (.finished cfg.dialect script.length)
  pure script

/-- The texts of a script's statements. -/
def texts (cfg : Config) (s : Schema) (sequences : Keyed Sequence) : Except Fault (List String) :=
  (generate cfg s sequences).outcome.map (List.map Statement.text)

end Script

end SchemaScript
