import SchemaScript.Script.Body
import SchemaScript.Script.Resolve
import SchemaScript.Order.Chain

/-! The statement that creates a table.

GoogleSQL closes the body before the primary key, and the interleaving follows after a comma and a
new line; the PostgreSQL dialect puts the key inside the body as its last line, and the
interleaving follows after a space. A table without key parts has no key clause in either. -/
namespace SchemaScript

def Check.text (k : Check) : String :=
  match Text.given? k.name with
  | some name => "CONSTRAINT " ++ name ++ " CHECK " ++ k.condition
  | none => "CHECK " ++ k.condition

/-- The lines of the checks. The last one keeps its comma where the primary key follows in the
body. -/
def checkLines (d : Dialect) (checks : List Check) : String :=
  match checks with
  | [] => ""
  | _ =>
    Text.joined ",\n" (checks.map fun k => "\t" ++ k.text) ++
      match d with
      | .googleSql => "\n"
      | .postgreSql => ",\n"

/-- The end of the body, with the primary key if there is one. -/
def closing (d : Dialect) (keys : String) : String :=
  if keys = "" then ")"
  else match d with
    | .googleSql => ") PRIMARY KEY (" ++ keys ++ ")"
    | .postgreSql => "\tPRIMARY KEY (" ++ keys ++ ")\n)"

/-- What happens to a row when its parent row goes. Only rows that need a parent row have one. -/
def Parent.actionText (p : Parent) : String :=
  match p.kind with
  | .nearby => ""
  | .parent =>
    match Text.given? p.onDelete with
    | some action => " ON DELETE " ++ action
    | none => ""

def interleavingLead : Dialect → String
  | .googleSql => ",\n"
  | .postgreSql => " "

namespace Table

def banner (cfg : Config) (t : Table) : String :=
  match t.remark? with
  | some remark => if cfg.comments then "--\n-- " ++ remark ++ "\n--\n" else ""
  | none => ""

theorem banner_without_comments {cfg : Config} (h : cfg.comments = false) (t : Table) :
    t.banner cfg = "" := by
  unfold banner
  cases t.remark? <;> simp [h]

/-- The clause that names the parent. A parent that the schema does not have is passed over. -/
def interleavingText (cfg : Config) (s : Schema) (t : Table) : String :=
  match t.parent, s.parentOf? t with
  | some p, some (_, up) =>
    interleavingLead cfg.dialect ++ "INTERLEAVE " ++ p.kind.words ++ " " ++ cfg.quote up.name ++
      p.actionText
  | _, _ => ""

/-- The statement, once the columns and the key have been found. -/
def createText (cfg : Config) (s : Schema) (t : Table) (columns : List Column) (keys : String) :
    String :=
  t.banner cfg ++ "CREATE TABLE " ++ cfg.quote t.name ++ " (\n" ++ Body.columnLines cfg columns ++
    checkLines cfg.dialect t.checks ++ closing cfg.dialect keys ++ t.interleavingText cfg s

/-- A column found and reported on. -/
def bodyColumn (cfg : Config) (t : Table) (id : String) : Run Column := do
  let c ← Run.ofExcept (t.column id)
  c.report cfg
  pure c

/-- Columns are looked up before the key, each in the order of writing. -/
def create (cfg : Config) (s : Schema) (t : Table) : Run String := do
  Run.emit (.statement .table t.name)
  let columns ← Run.each (t.bodyColumn cfg) t.columnIds
  let keys ← Run.ofExcept (t.keyText cfg t.primaryKey)
  pure (t.createText cfg s columns keys)

end Table

end SchemaScript
