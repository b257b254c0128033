import SchemaScript.Keyed
import SchemaScript.Model.ColumnType
import SchemaScript.Text.Joined

/-! Columns.

A column may carry a default expression and, apart from it, a generator that fills it in. -/
namespace SchemaScript

/-- An SQL expression, kept as it was written. -/
structure Expression where
  id : String := ""
  text : String := ""
  deriving DecidableEq

/-- A default that is not `present` has no expression, whatever `value` holds. -/
structure DefaultValue where
  present : Bool := false
  value : Expression := {}
  deriving DecidableEq

namespace DefaultValue

def ofText (text : String) : DefaultValue := { present := true, value := { text } }

def text? (d : DefaultValue) : Option String := if d.present then some d.value.text else none

end DefaultValue

/-- Where the value of a generated column comes from. -/
inductive Generation where
  | off
  | builtin
  | sequence
  deriving DecidableEq

namespace Generation

def all : List Generation := [off, builtin, sequence]

def label : Generation → String
  | off => ""
  | builtin => "Pre-defined"
  | sequence => "Sequence"

def ofLabel? (text : String) : Option Generation := all.find? fun g => g.label == text

@[simp] theorem ofLabel?_label (g : Generation) : ofLabel? g.label = some g := by
  cases g <;> decide

end Generation

/-- `name` is that of a builtin function or of a sequence. -/
structure Generator where
  name : String := ""
  generation : Generation := .off
  deriving DecidableEq

namespace Generator

/-- The name of the builtin generator of unique identifiers. -/
def uuidName : String := "UUID"

def uuid : Generator := { name := uuidName, generation := .builtin }

def ofSequence (name : String) : Generator := { name, generation := .sequence }

def isUuid (g : Generator) : Bool := g.generation = .builtin && g.name = uuidName

end Generator

structure Column where
  id : String
  name : String
  type : ColumnType
  notNull : Bool := false
  comment : Option String := none
  generator : Generator := {}
  default : DefaultValue := {}
  /-- Settings that only some engines know, by name. -/
  options : Keyed String := ∅
  deriving BEq

namespace Column

/-- The setting that records the type a column had in Cassandra. -/
def cassandraTypeOption : String := "cassandra_type"

def cassandraType? (c : Column) : Option String :=
  Text.given? (c.options.get? cassandraTypeOption)

/-- The comment to write beside the column, if any. -/
def remark? (c : Column) : Option String := Text.given? c.comment

/-! ### Additions -/

def required (c : Column) : Column := { c with notNull := true }

def withComment (c : Column) (text : String) : Column := { c with comment := some text }

def withDefault (c : Column) (text : String) : Column :=
  { c with default := DefaultValue.ofText text }

def withGenerator (c : Column) (g : Generator) : Column := { c with generator := g }

def withOption (c : Column) (name value : String) : Column :=
  { c with options := c.options.insert name value }

end Column

end SchemaScript
