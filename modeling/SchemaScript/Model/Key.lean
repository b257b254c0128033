/-! Keys: the parts of primary and index keys, indexes, foreign keys and checks. -/
namespace SchemaScript

/-- One column of a key. Its place in the key is its `order`, not its place in the list. -/
structure KeyPart where
  column : String
  descending : Bool := false
  order : Int32
  deriving DecidableEq

/-- The parts by ascending order; parts of equal order stay as they were declared. -/
def KeyPart.sorted (parts : List KeyPart) : List KeyPart :=
  parts.mergeSort fun a b => decide (a.order ≤ b.order)

structure Index where
  id : String
  name : String
  tableId : String
  unique : Bool := false
  keys : List KeyPart := []
  /-- Columns the index carries without being ordered by them. -/
  stored : List String := []
  deriving DecidableEq

namespace Index

def withKey (i : Index) (k : KeyPart) : Index := { i with keys := i.keys ++ [k] }

def withStored (i : Index) (column : String) : Index := { i with stored := i.stored ++ [column] }

end Index

/-- The columns of the declaring table and of the table it refers to, pair by pair. -/
structure ForeignKey where
  id : String
  name : Option String := none
  columns : List String := []
  targetTable : String
  targetColumns : List String := []
  onDelete : Option String := none
  /-- Kept, but never written: only deletions have an action. -/
  onUpdate : Option String := none
  deriving DecidableEq

namespace ForeignKey

/-- A foreign key to a table, with no columns so far. -/
def toTable (id targetTable : String) : ForeignKey := { id, targetTable }

/-- One more pair of columns. -/
def pair (k : ForeignKey) (column target : String) : ForeignKey :=
  { k with columns := k.columns ++ [column], targetColumns := k.targetColumns ++ [target] }

def withName (k : ForeignKey) (name : String) : ForeignKey := { k with name := some name }

def withOnDelete (k : ForeignKey) (action : String) : ForeignKey :=
  { k with onDelete := some action }

def withOnUpdate (k : ForeignKey) (action : String) : ForeignKey :=
  { k with onUpdate := some action }

end ForeignKey

/-- A condition on the rows of a table; `condition` brings its own parentheses. -/
structure Check where
  id : String
  name : Option String := none
  condition : String
  deriving DecidableEq

end SchemaScript
