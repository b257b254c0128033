import SchemaScript.Model.Schema
import SchemaScript.Naming.Quoting
import SchemaScript.Script.Fault

/-! Finding what an id stands for. An id that stands for nothing is a fault. -/
namespace SchemaScript

namespace Table

/-- The definition of a column of the table. -/
def column (t : Table) (id : String) : Except Fault Column :=
  match t.columns.get? id with
  | some c => .ok c
  | none => .error (.missingColumn t.name id)

/-- The name of a column of the table, as the script writes it. -/
def columnName (cfg : Config) (t : Table) (id : String) : Except Fault String :=
  (t.column id).map fun c => cfg.quote c.name

theorem column_of_get? {t : Table} {id : String} {c : Column} (h : t.columns.get? id = some c) :
    t.column id = .ok c := by simp [column, h]

theorem column_of_missing {t : Table} {id : String} (h : t.columns.get? id = none) :
    t.column id = .error (.missingColumn t.name id) := by simp [column, h]

/-- A part of a key, as the script writes it. -/
def keyPartText (cfg : Config) (t : Table) (part : KeyPart) : Except Fault String :=
  (t.columnName cfg part.column).map fun name => if part.descending then name ++ " DESC" else name

/-- The parts of a key in their order, with commas between them. -/
def keyText (cfg : Config) (t : Table) (parts : List KeyPart) : Except Fault String :=
  ((KeyPart.sorted parts).mapM (t.keyPartText cfg)).map (Text.joined ", ")

theorem keyText_nil (cfg : Config) (t : Table) : t.keyText cfg [] = .ok "" := by
  simp [keyText, KeyPart.sorted, pure, Except.pure, Except.map]

/-- The names of columns with commas between them. -/
def columnNames (cfg : Config) (t : Table) (ids : List String) : Except Fault String :=
  (ids.mapM (t.columnName cfg)).map (Text.joined ", ")

end Table

/-- The table under a key. -/
def Schema.table (s : Schema) (id : String) : Except Fault Table :=
  match s.get? id with
  | some t => .ok t
  | none => .error (.missingTable id)

end SchemaScript
