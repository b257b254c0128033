import SchemaScript.Model.Column
import SchemaScript.Naming.Quoting
import SchemaScript.Script.Run

/-! The definition of a column.

It reads `name type [NOT NULL] [DEFAULT ...] [OPTIONS ...]`. A default expression and a generator
each bring a `DEFAULT` of their own. -/
namespace SchemaScript

/-- Types whose default expression is cast to the type. -/
def BaseType.castsDefault : Dialect → BaseType → Bool
  | .googleSql, t => [float32, numeric, bool, bytes].contains t
  | .postgreSql, t => [float64, float32, numeric, bool, bytes].contains t

/-- The default of a column with expression `text`. -/
def defaultClause (d : Dialect) (t : BaseType) (text : String) : String :=
  if t.castsDefault d then " DEFAULT (CAST(" ++ text ++ " AS " ++ t.name d ++ "))"
  else " DEFAULT (" ++ text ++ ")"

def uuidClause : Dialect → String
  | .googleSql => " DEFAULT (GENERATE_UUID())"
  | .postgreSql => " DEFAULT (spanner.generate_uuid())"

def nextValueClause (sequence : String) : Dialect → String
  | .googleSql => " DEFAULT (GET_NEXT_SEQUENCE_VALUE(SEQUENCE " ++ sequence ++ "))"
  | .postgreSql => " DEFAULT NEXTVAL('" ++ sequence ++ "')"

/-- The builtin generator of unique identifiers and sequences have a clause; others have none. -/
def generatorClause (d : Dialect) (g : Generator) : String :=
  if g.isUuid then uuidClause d
  else if g.generation = .sequence then nextValueClause g.name d
  else ""

namespace Column

def defaultText (c : Column) (d : Dialect) : String :=
  match c.default.text? with
  | some text => defaultClause d c.type.base text
  | none => ""

def optionsText (c : Column) : String :=
  match c.cassandraType? with
  | some type => " OPTIONS (" ++ cassandraTypeOption ++ " = '" ++ type ++ "')"
  | none => ""

/-- The definition without its place in a table. -/
def text (cfg : Config) (c : Column) : String :=
  cfg.quote c.name ++ " " ++ c.type.text cfg.dialect ++ (if c.notNull then " NOT NULL" else "") ++
    c.defaultText cfg.dialect ++ generatorClause cfg.dialect c.generator ++ c.optionsText

/-- Whether the dialect has no type for the column and text takes its place. -/
def isArrayAsText (d : Dialect) (c : Column) : Bool := d.isPostgreSql && c.type.isArray

/-- The warning that a column brings about, if any. -/
def report (cfg : Config) (c : Column) : Run Unit :=
  if c.isArrayAsText cfg.dialect then Run.emit (.arrayAsText c.name) else pure ()

end Column

end SchemaScript
