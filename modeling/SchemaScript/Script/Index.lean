import SchemaScript.Script.Resolve
import SchemaScript.Script.Run

/-! The statement that creates an index. Every index carries the columns of the primary key anyway,
so they are left out of the columns it is asked to store. -/
namespace SchemaScript

/-- The stored columns that are not part of the table's primary key. -/
def Index.extraColumns (i : Index) (t : Table) : List String :=
  i.stored.filter fun id => !t.isKeyColumn id

def storingText (d : Dialect) (names : String) : String :=
  " " ++ d.storingWord ++ " (" ++ names ++ ")"

/-- The clause of the stored columns, absent if there are none. -/
def Index.storingClause (cfg : Config) (t : Table) (i : Index) : Except Fault String :=
  match i.extraColumns t with
  | [] => .ok ""
  | ids => (t.columnNames cfg ids).map (storingText cfg.dialect)

def Index.createText (cfg : Config) (t : Table) (i : Index) (keys storing : String) : String :=
  "CREATE " ++ (if i.unique then "UNIQUE " else "") ++ "INDEX " ++ cfg.quote i.name ++ " ON " ++
    cfg.quote t.name ++ " (" ++ keys ++ ")" ++ storing

/-- The index of a table. The table is the one given, whatever id the index names. -/
def Index.create (cfg : Config) (t : Table) (i : Index) : Run String := do
  Run.emit (.statement .index i.name)
  let keys ← Run.ofExcept (t.keyText cfg i.keys)
  let storing ← Run.ofExcept (i.storingClause cfg t)
  pure (i.createText cfg t keys storing)

end SchemaScript
