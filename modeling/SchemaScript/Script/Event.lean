import SchemaScript.Naming.Dialect
import SchemaScript.Text.Shown

/-! What a run reports about itself while it goes on. -/
namespace SchemaScript

inductive Severity where
  | trace
  | debug
  | warn
  deriving DecidableEq

def Severity.label : Severity → String
  | trace => "TRACE"
  | debug => "DEBUG"
  | warn => "WARN"

/-- The kinds of statement a script consists of. -/
inductive StatementKind where
  | sequence
  | table
  | index
  | foreignKey
  deriving DecidableEq

def StatementKind.label : StatementKind → String
  | sequence => "create_sequence"
  | table => "create_table"
  | index => "create_index"
  | foreignKey => "add_foreign_key"

inductive Event where
  /-- The tables have been put in order; these are their names, sorted. -/
  | ordered (names : List String)
  /-- A statement is about to be written. -/
  | statement (kind : StatementKind) (name : String)
  /-- An array column is written as text, for want of arrays. -/
  | arrayAsText (column : String)
  /-- The script is complete. -/
  | finished (dialect : Dialect) (statements : Nat)
  deriving DecidableEq

namespace Event

def severity : Event → Severity
  | ordered _ => .debug
  | statement .. => .trace
  | arrayAsText _ => .warn
  | finished .. => .debug

def message : Event → String
  | ordered _ => "spanner_ddl.order"
  | statement .. => "spanner_ddl.statement"
  | arrayAsText _ =>
    "spanner_ddl.array_downgrade: PostgreSQL dialect has no arrays, using VARCHAR"
  | finished .. => "spanner_ddl.generate"

/-- A detail of an event. -/
inductive Detail where
  | text (value : String)
  | count (value : Nat)
  deriving DecidableEq

def details : Event → List (String × Detail)
  | ordered names => [("tables", .text (Text.shownList names))]
  | statement kind name => [("kind", .text kind.label), ("name", .text name)]
  | arrayAsText column => [("column", .text column)]
  | finished dialect statements =>
    [("dialect", .text dialect.label), ("statements", .count statements)]

end Event

end SchemaScript
