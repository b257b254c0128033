import SchemaScript.Script.Resolve
import SchemaScript.Script.Run

/-! Foreign keys. They are added to tables that exist, so tables may refer to each other freely. -/
namespace SchemaScript.ForeignKey

/-- What a fault calls the foreign key. -/
def title (k : ForeignKey) : String := (Text.given? k.name).getD k.id

def nameClause (cfg : Config) (k : ForeignKey) : String :=
  match Text.given? k.name with
  | some name => "CONSTRAINT " ++ cfg.quote name ++ " "
  | none => ""

def actionClause (k : ForeignKey) : String :=
  match Text.given? k.onDelete with
  | some action => " ON DELETE " ++ action
  | none => ""

def constraintText (cfg : Config) (k : ForeignKey) (target : Table) (columns targets : String) :
    String :=
  k.nameClause cfg ++ "FOREIGN KEY (" ++ columns ++ ") REFERENCES " ++ cfg.quote target.name ++
    " (" ++ targets ++ ")" ++ k.actionClause

/-- The constraint on its own. Its two column lists must be of one length, and the table it refers
to must be there, before any column is looked up. -/
def constraint (cfg : Config) (s : Schema) (t : Table) (k : ForeignKey) : Except Fault String := do
  if k.columns.length ≠ k.targetColumns.length then
    throw (.unevenForeignKey t.name k.title k.columns.length k.targetColumns.length)
  let target ← s.table k.targetTable
  let columns ← t.columnNames cfg k.columns
  let targets ← target.columnNames cfg k.targetColumns
  pure (k.constraintText cfg target columns targets)

/-- The statement that adds the constraint to its table. -/
def add (cfg : Config) (s : Schema) (t : Table) (k : ForeignKey) : Run String := do
  Run.emit (.statement .foreignKey t.name)
  let text ← Run.ofExcept (k.constraint cfg s t)
  pure ("ALTER TABLE " ++ cfg.quote t.name ++ " ADD " ++ text)

end SchemaScript.ForeignKey
