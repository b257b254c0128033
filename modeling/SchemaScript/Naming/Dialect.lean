import SchemaScript.Text.Fold

/-! The two SQL dialects of a target database and the kinds of database a schema comes from.

A dialect has one label, which files and reports use, and a few aliases for people to type. Of a
source database only its kind matters, and only for quoting: some kinds keep the case of names. -/
namespace SchemaScript

/-- A name that stands for nothing we know. -/
inductive NameFault where
  | unknownDialect
  | unknownSource
  deriving DecidableEq

def NameFault.message : NameFault → String
  | unknownDialect => "unknown spanner dialect"
  | unknownSource => "unknown source database kind"

/-- `googleSql` puts names in backticks and the primary key after the table body; `postgreSql` uses
double quotes where they are needed and puts the key inside the body. -/
inductive Dialect where
  | googleSql
  | postgreSql
  deriving DecidableEq, Inhabited

namespace Dialect

def all : List Dialect := [googleSql, postgreSql]

def label : Dialect → String
  | googleSql => "google_standard_sql"
  | postgreSql => "postgresql"

/-- The names a dialect answers to, whatever their case. -/
def aliases : Dialect → List String
  | googleSql => ["google_standard_sql", "googlesql", "gsql"]
  | postgreSql => ["postgresql", "postgres", "pg"]

def ofAlias? (text : String) : Option Dialect :=
  all.find? fun d => d.aliases.any (Text.sameFolded · text)

def ofAlias (text : String) : Except NameFault Dialect :=
  match ofAlias? text with
  | some d => .ok d
  | none => .error .unknownDialect

/-- The dialect with exactly this label. -/
def ofLabel? (text : String) : Option Dialect := all.find? fun d => d.label == text

def isPostgreSql : Dialect → Bool
  | googleSql => false
  | postgreSql => true

/-- The word before the columns that an index carries without being ordered by them. -/
def storingWord : Dialect → String
  | googleSql => "STORING"
  | postgreSql => "INCLUDE"

theorem label_mem_aliases (d : Dialect) : d.label ∈ d.aliases := by cases d <;> decide

@[simp] theorem ofLabel?_label (d : Dialect) : ofLabel? d.label = some d := by cases d <;> decide

end Dialect

/-- The kind of database a schema was read from. -/
inductive Source where
  | mysql
  | mysqlDump
  | postgres
  | pgDump
  | sqlServer
  | oracle
  | dynamoDb
  | cassandra
  | csv
  deriving DecidableEq

namespace Source

def all : List Source :=
  [mysql, mysqlDump, postgres, pgDump, sqlServer, oracle, dynamoDb, cassandra, csv]

def label : Source → String
  | mysql => "mysql"
  | mysqlDump => "mysqldump"
  | postgres => "postgres"
  | pgDump => "pg_dump"
  | sqlServer => "sqlserver"
  | oracle => "oracle"
  | dynamoDb => "dynamodb"
  | cassandra => "cassandra"
  | csv => "csv"

/-- The kind with this label, whatever its case. -/
def ofLabel? (text : String) : Option Source := all.find? fun k => Text.sameFolded k.label text

def ofLabel (text : String) : Except NameFault Source :=
  match ofLabel? text with
  | some k => .ok k
  | none => .error .unknownSource

@[simp] theorem ofLabel?_label (k : Source) : ofLabel? k.label = some k := by cases k <;> decide

/-- Whether names from such a database differ when only their case does. -/
def keepsCase : Source → Bool
  | postgres | pgDump => true
  | _ => false

end Source

end SchemaScript
