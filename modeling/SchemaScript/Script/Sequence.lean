import SchemaScript.Model.Sequence
import SchemaScript.Naming.Quoting
import SchemaScript.Script.Run
import SchemaScript.Text.Joined

/-! The statement that creates a sequence. GoogleSQL lists the settings as options; the PostgreSQL
dialect has a clause for each, and wants both bounds of a skipped range or none. -/
namespace SchemaScript.Sequence

/-- One option with its value, if the value is given. -/
def setting (name : String) (value : Option String) : List String :=
  match Text.given? value with
  | some v => [name ++ " = " ++ v]
  | none => []

def kindOption (q : Sequence) : List String :=
  match q.distribution with
  | some .bitReversed => ["sequence_kind='bit_reversed_positive'"]
  | none => []

def googleSqlOptions (q : Sequence) : List String :=
  q.kindOption ++ setting "skip_range_min" q.skipMin ++ setting "skip_range_max" q.skipMax ++
    setting "start_with_counter" q.startCounter

def googleSqlSettings (q : Sequence) : String :=
  match q.googleSqlOptions with
  | [] => ""
  | options => " OPTIONS (" ++ Text.joined ", " options ++ ")"

def kindClause (q : Sequence) : String :=
  match q.distribution with
  | some .bitReversed => " BIT_REVERSED_POSITIVE"
  | none => ""

def skipClause (q : Sequence) : String :=
  match Text.given? q.skipMin, Text.given? q.skipMax with
  | some least, some greatest => " SKIP RANGE " ++ least ++ " " ++ greatest
  | _, _ => ""

def startClause (q : Sequence) : String :=
  match Text.given? q.startCounter with
  | some counter => " START COUNTER WITH " ++ counter
  | none => ""

def postgreSqlSettings (q : Sequence) : String := q.kindClause ++ q.skipClause ++ q.startClause

def settings (q : Sequence) : Dialect → String
  | .googleSql => q.googleSqlSettings
  | .postgreSql => q.postgreSqlSettings

def createText (cfg : Config) (q : Sequence) : String :=
  "CREATE SEQUENCE " ++ cfg.quote q.name ++ q.settings cfg.dialect

def create (cfg : Config) (q : Sequence) : Run String := do
  Run.emit (.statement .sequence q.name)
  pure (q.createText cfg)

/-- By name, and by id among sequences of one name. -/
def before (a b : Sequence) : Bool :=
  decide (a.name < b.name) || (a.name == b.name && decide (a.id ≤ b.id))

end SchemaScript.Sequence
