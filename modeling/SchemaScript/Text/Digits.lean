/-! Digits and the numbers they stand for. -/
namespace SchemaScript.Text

def isDigit (c : Char) : Bool := decide ('0' ≤ c) && decide (c ≤ '9')

/-- What a digit of base sixteen, of either case, stands for. -/
def hexValue? (c : Char) : Option Nat :=
  if '0' ≤ c ∧ c ≤ '9' then some (c.toNat - 48)
  else if 'a' ≤ c ∧ c ≤ 'f' then some (c.toNat - 87)
  else if 'A' ≤ c ∧ c ≤ 'F' then some (c.toNat - 55)
  else none

/-- The number written by these digits. Characters that are no digits count as zero. -/
def digitsValue (base : Nat) (ds : List Char) : Nat :=
  ds.foldl (fun n c => base * n + (hexValue? c).getD 0) 0

/-- The number written by these digits of base sixteen, if they are all digits. -/
def hexCode? (ds : List Char) : Option Nat :=
  if ds.all fun c => (hexValue? c).isSome then some (digitsValue 16 ds) else none

example : digitsValue 10 "1066".toList = 1066 := by decide

example : hexCode? ['2', '0', 'a', 'C'] = some 0x20ac := by decide

end SchemaScript.Text
