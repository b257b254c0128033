import SchemaScript.Naming.Dialect

/-! Column types.

A schema speaks of types by their GoogleSQL names; the PostgreSQL dialect spells some of them
differently (`postgreSqlSpellings`) and keeps the other names. Only `STRING` and `BYTES` have a
length, and only `STRING` shows it in both dialects. PostgreSQL columns hold no arrays: an array
is stored there as text of the greatest length. -/
namespace SchemaScript

inductive BaseType where
  | bool
  | bytes
  | date
  | float32
  | float64
  | int64
  | string
  | timestamp
  | numeric
  | json
  deriving DecidableEq

namespace BaseType

def all : List BaseType :=
  [bool, bytes, date, float32, float64, int64, string, timestamp, numeric, json]

def googleSqlName : BaseType → String
  | bool => "BOOL"
  | bytes => "BYTES"
  | date => "DATE"
  | float32 => "FLOAT32"
  | float64 => "FLOAT64"
  | int64 => "INT64"
  | string => "STRING"
  | timestamp => "TIMESTAMP"
  | numeric => "NUMERIC"
  | json => "JSON"

/-- The types whose PostgreSQL name is a name of its own. -/
def postgreSqlSpellings : List (BaseType × String) :=
  [(bytes, "BYTEA"), (float32, "FLOAT4"), (float64, "FLOAT8"), (int64, "INT8"), (string, "VARCHAR"),
   (timestamp, "TIMESTAMPTZ"), (json, "JSONB")]

def postgreSqlName? (t : BaseType) : Option String := postgreSqlSpellings.lookup t

def name : Dialect → BaseType → String
  | .googleSql, t => t.googleSqlName
  | .postgreSql, t => t.postgreSqlName?.getD t.googleSqlName

/-- The type with exactly this GoogleSQL name. -/
def ofName? (text : String) : Option BaseType := all.find? fun t => t.googleSqlName == text

/-- The type with this GoogleSQL name, whatever its case. -/
def ofGoogleSql? (text : String) : Option BaseType :=
  all.find? fun t => Text.sameFolded t.googleSqlName text

/-- The type with this PostgreSQL name, whatever its case. A type with a spelling of its own does
not answer to its GoogleSQL name here. -/
def ofPostgreSql? (text : String) : Option BaseType :=
  match postgreSqlSpellings.find? fun e => Text.sameFolded e.2 text with
  | some e => some e.1
  | none => (ofGoogleSql? text).filter fun t => t.postgreSqlName?.isNone

/-- Whether a length belongs to the type. -/
def hasLength : BaseType → Bool
  | string | bytes => true
  | _ => false

@[simp] theorem ofName?_googleSqlName (t : BaseType) : ofName? t.googleSqlName = some t := by
  cases t <;> decide

end BaseType

/-! ### Lengths -/

/-- The length of a text or byte column: the greatest there is, or a stated limit. -/
inductive Length where
  | max
  | limit (n : Int64)
  deriving DecidableEq, Inhabited

namespace Length

/-- The number that stands for the greatest length. -/
def maxCode : Int64 := Int64.maxValue

def ofCode (n : Int64) : Length := if n = maxCode then max else limit n

def code : Length → Int64
  | max => maxCode
  | limit n => n

/-- The greatest length of text, in characters. -/
def stringMax : Int64 := 2621440

/-- The greatest length of byte strings, in bytes. -/
def bytesMax : Int64 := 10485760

/-- The greatest size of all columns of a row outside its key. -/
def rowMax : Int64 := 1677721600

/-- What the PostgreSQL dialect, which has no word for it, writes for the greatest length. -/
def postgreSqlMax : Int64 := stringMax

theorem ofCode_code (l : Length) : ofCode l.code = if l = limit maxCode then max else l := by
  cases l with
  | max => rfl
  | limit n => by_cases h : n = maxCode <;> simp [code, ofCode, h]

end Length

/-! ### Types of columns -/

structure ColumnType where
  base : BaseType
  /-- Without meaning unless the base type has a length. -/
  length : Length := .max
  isArray : Bool := false
  deriving DecidableEq

namespace ColumnType

def ofBase (base : BaseType) : ColumnType := { base }

/-- A number in parentheses after a type's name. -/
def sized (name : String) (n : Int64) : String := name ++ "(" ++ toString n ++ ")"

def googleSqlElement (t : ColumnType) : String :=
  if t.base.hasLength then
    match t.length with
    | .max => t.base.googleSqlName ++ "(MAX)"
    | .limit n => sized t.base.googleSqlName n
  else t.base.googleSqlName

def googleSqlText (t : ColumnType) : String :=
  if t.isArray then "ARRAY<" ++ t.googleSqlElement ++ ">" else t.googleSqlElement

def postgreSqlText (t : ColumnType) : String :=
  if t.isArray then sized "VARCHAR" Length.postgreSqlMax
  else if t.base = .string then
    match t.length with
    | .max => sized (t.base.name .postgreSql) Length.postgreSqlMax
    | .limit n => sized (t.base.name .postgreSql) n
  else t.base.name .postgreSql

/-- The type as a column definition names it. -/
def text : Dialect → ColumnType → String
  | .googleSql, t => t.googleSqlText
  | .postgreSql, t => t.postgreSqlText

end ColumnType

end SchemaScript
