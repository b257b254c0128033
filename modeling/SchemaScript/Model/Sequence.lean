import SchemaScript.Keyed

/-! Sequences of generated numbers. Bounds and the start counter are kept as they were written. -/
namespace SchemaScript

/-- How the values of a sequence are spread. -/
inductive Distribution where
  | bitReversed
  deriving DecidableEq

namespace Distribution

def label : Distribution → String
  | bitReversed => "BIT REVERSED POSITIVE"

def ofLabel? (text : String) : Option Distribution :=
  if text = label bitReversed then some bitReversed else none

@[simp] theorem ofLabel?_label (d : Distribution) : ofLabel? d.label = some d := by
  cases d; rfl

end Distribution

structure Sequence where
  id : String := ""
  name : String := ""
  distribution : Option Distribution := none
  skipMin : Option String := none
  skipMax : Option String := none
  startCounter : Option String := none
  /-- The ids of the columns that draw on the sequence, by table id. -/
  users : Keyed (List String) := ∅
  deriving BEq

namespace Sequence

/-- A sequence of bit-reversed values with no bounds. -/
def named (id name : String) : Sequence := { id, name, distribution := some .bitReversed }

def withSkipRange (q : Sequence) (least greatest : String) : Sequence :=
  { q with skipMin := some least, skipMax := some greatest }

/-- One more column of a table that draws on the sequence. -/
def usedBy (q : Sequence) (table column : String) : Sequence :=
  { q with users := q.users.insert table ((q.users.get? table).getD [] ++ [column]) }

end Sequence

end SchemaScript
