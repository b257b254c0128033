import SchemaScript.Model.Column
import SchemaScript.Model.Key

/-! Tables.

The columns of a table are defined by id in `columns`; `columnIds` says which of them the table
has, in which order. An id without a definition is a fault that shows when the table is written;
a definition without a mention is never written. -/
namespace SchemaScript

/-- Whether a row needs a row of the table it is stored with. -/
inductive Interleaving where
  | nearby
  | parent
  deriving DecidableEq

namespace Interleaving

def all : List Interleaving := [nearby, parent]

/-- The words after `INTERLEAVE`. -/
def words : Interleaving → String
  | nearby => "IN"
  | parent => "IN PARENT"

def ofWords? (text : String) : Option Interleaving := all.find? fun k => k.words == text

@[simp] theorem ofWords?_words (k : Interleaving) : ofWords? k.words = some k := by
  cases k <;> decide

end Interleaving

/-- The table whose rows the rows of a table are stored with. -/
structure Parent where
  id : String
  onDelete : Option String := none
  kind : Interleaving := .parent
  deriving DecidableEq

structure Table where
  id : String := ""
  name : String := ""
  columnIds : List String := []
  columns : Keyed Column := ∅
  primaryKey : List KeyPart := []
  foreignKeys : List ForeignKey := []
  indexes : List Index := []
  parent : Option Parent := none
  checks : List Check := []
  comment : Option String := none
  deriving BEq, Inhabited

namespace Table

/-- A table with nothing in it. -/
def named (id name : String) : Table := { id, name }

/-! ### Additions -/

def withColumn (t : Table) (c : Column) : Table :=
  { t with columnIds := t.columnIds ++ [c.id], columns := t.columns.insert c.id c }

def withKeyPart (t : Table) (k : KeyPart) : Table := { t with primaryKey := t.primaryKey ++ [k] }

def withForeignKey (t : Table) (k : ForeignKey) : Table :=
  { t with foreignKeys := t.foreignKeys ++ [k] }

def withIndex (t : Table) (i : Index) : Table := { t with indexes := t.indexes ++ [i] }

def withCheck (t : Table) (k : Check) : Table := { t with checks := t.checks ++ [k] }

def interleavedIn (t : Table) (p : Parent) : Table := { t with parent := some p }

def withComment (t : Table) (text : String) : Table := { t with comment := some text }

/-! ### Questions -/

/-- The parent's id; a parent without an id is none. -/
def parentId? (t : Table) : Option String := Text.given? (t.parent.map Parent.id)

def isKeyColumn (t : Table) (column : String) : Bool := t.primaryKey.any (·.column == column)

/-- The comment to write above the table, if any. -/
def remark? (t : Table) : Option String := Text.given? t.comment

end Table

end SchemaScript
