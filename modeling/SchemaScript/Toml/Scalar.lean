import SchemaScript.Text.Digits
import SchemaScript.Toml.Node

/-! TOML values that are one word: booleans, numbers, dates and times.

Of numbers and dates only the form is of interest. Numbers have limits of their own all the same:
a whole number must fit in 128 bits, and a decimal one must not be so large that the nearest
double is infinite. -/
namespace SchemaScript.Toml

open Text (isDigit digitsValue hexValue?)

/-! ### Numbers -/

/-- The digits of a number, which underscores may separate. -/
def grouped? (ok : Char → Bool) : List Char → Option (List Char)
  | [] => none
  | [c] => if ok c then some [c] else none
  | c :: '_' :: rest => if ok c then (grouped? ok rest).map (c :: ·) else none
  | c :: d :: rest => if ok c then (grouped? ok (d :: rest)).map (c :: ·) else none

/-- The part before the first character in question, and the part after it if there is one. -/
def cut (p : Char → Bool) (cs : List Char) : List Char × Option (List Char) :=
  (cs.takeWhile fun c => !p c, (cs.dropWhile fun c => !p c).tail?)

def splitSign : List Char → Option Bool × List Char
  | '+' :: rest => (some false, rest)
  | '-' :: rest => (some true, rest)
  | cs => (none, cs)

/-- Whether a whole number fits in 128 bits, signed if it is negative. -/
def fits (negative : Bool) (n : Nat) : Bool :=
  if negative then decide (n ≤ Nat.pow 2 127) else decide (n < Nat.pow 2 128)

/-- Halfway between the greatest double and the power of two after it. -/
def doubleBound : Nat := Nat.pow 2 1024 - Nat.pow 2 970

/-- Whether the decimal `m * 10 ^ e` is too large for a double. -/
def overflows (m : Nat) (e : Int) : Bool :=
  let size : Int := (Nat.toDigits 10 m).length + e
  if m = 0 ∨ size ≤ 308 then false
  else if size > 309 then true
  else if 0 ≤ e then decide (doubleBound ≤ m * Nat.pow 10 e.toNat)
  else decide (doubleBound * Nat.pow 10 (-e).toNat ≤ m)

/-- The digits before the point: no leading zero, zero itself apart. -/
def wholeDigits? (cs : List Char) : Option (List Char) :=
  match grouped? isDigit cs with
  | some ('0' :: _ :: _) => none
  | r => r

def exponent? (cs : List Char) : Option Int :=
  let (sign, ds) := splitSign cs
  (grouped? isDigit ds).map fun ds =>
    if sign = some true then -(digitsValue 10 ds : Int) else digitsValue 10 ds

def isDecimal (negative : Bool) (cs : List Char) : Bool :=
  let (mantissa, exponent) := cut (fun c => c = 'e' || c = 'E') cs
  let (whole, fraction) := cut (· = '.') mantissa
  match wholeDigits? whole, fraction.mapM (grouped? isDigit), exponent.mapM exponent? with
  | some ds, some none, some none => fits negative (digitsValue 10 ds)
  | some ds, some fraction, some exponent =>
    let fraction := fraction.getD []
    !overflows (digitsValue 10 (ds ++ fraction)) (exponent.getD 0 - fraction.length)
  | _, _, _ => false

def isBinary (c : Char) : Bool := c = '0' || c = '1'

def isOctal (c : Char) : Bool := decide ('0' ≤ c) && decide (c ≤ '7')

def isHex (c : Char) : Bool := (hexValue? c).isSome

def isInBase (base : Nat) (ok : Char → Bool) (cs : List Char) : Bool :=
  (grouped? ok cs).any fun ds => fits false (digitsValue base ds)

def isNumber (cs : List Char) : Bool :=
  match cs with
  | '0' :: 'x' :: rest => isInBase 16 isHex rest
  | '0' :: 'o' :: rest => isInBase 8 isOctal rest
  | '0' :: 'b' :: rest => isInBase 2 isBinary rest
  | _ =>
    let (sign, rest) := splitSign cs
    rest == ['i', 'n', 'f'] || rest == ['n', 'a', 'n'] || isDecimal (sign = some true) rest

/-! ### Dates and times -/

/-- The number of two digits. -/
def pair? (a b : Char) : Option Nat :=
  if isDigit a && isDigit b then some (digitsValue 10 [a, b]) else none

def isLeapYear (y : Nat) : Bool := y % 4 == 0 && (y % 100 != 0 || y % 400 == 0)

def daysOf (year month : Nat) : Nat :=
  if month = 2 then if isLeapYear year then 29 else 28
  else if [4, 6, 9, 11].contains month then 30
  else 31

/-- What follows a date. -/
def afterDate : List Char → Option (List Char)
  | a :: b :: c :: d :: '-' :: m :: n :: '-' :: x :: y :: rest => do
    let century ← pair? a b
    let year ← pair? c d
    let month ← pair? m n
    let day ← pair? x y
    if 1 ≤ month ∧ month ≤ 12 ∧ 1 ≤ day ∧ day ≤ daysOf (100 * century + year) month then some rest
    else none
  | _ => none

/-- What follows the fraction of a second, if there is one. -/
def afterFraction : List Char → Option (List Char)
  | '.' :: rest => if (rest.head?.any isDigit) then some (rest.dropWhile isDigit) else none
  | cs => some cs

/-- What follows a time of day. The last minute of a day may have 61 seconds. -/
def afterTime : List Char → Option (List Char)
  | a :: b :: ':' :: c :: d :: ':' :: e :: f :: rest => do
    let hour ← pair? a b
    let minute ← pair? c d
    let second ← pair? e f
    if hour ≤ 23 ∧ minute ≤ 59 ∧ second ≤ 60 then afterFraction rest else none
  | _ => none

/-- Whether a distance from universal time, or nothing, is left. -/
def isOffset : List Char → Bool
  | [] | ['Z'] | ['z'] => true
  | [sign, a, b, ':', c, d] =>
    (sign = '+' || sign = '-') && (pair? a b).any (· ≤ 23) && (pair? c d).any (· ≤ 59)
  | _ => false

def isMoment (cs : List Char) : Bool :=
  match afterDate cs with
  | some [] => true
  | some (sep :: rest) =>
    (sep = 'T' || sep = 't' || sep = ' ') && (afterTime rest).any isOffset
  | none => afterTime cs == some []

/-! ### Words -/

def isWordChar (c : Char) : Bool := c.isAlphanum || ['_', '+', '-', '.', ':'].contains c

/-- A word and what follows it. A date takes a time after a space with it. -/
def readWord (cs : List Char) : List Char × List Char :=
  let word := cs.takeWhile isWordChar
  match afterDate word, cs.dropWhile isWordChar with
  | some [], ' ' :: c :: rest =>
    if isDigit c then
      (word ++ ' ' :: (c :: rest).takeWhile isWordChar, (c :: rest).dropWhile isWordChar)
    else (word, ' ' :: c :: rest)
  | _, rest => (word, rest)

def wordNode? (word : List Char) : Option Node :=
  if word == "true".toList then some (.flag true)
  else if word == "false".toList then some (.flag false)
  else if isNumber word then some .number
  else if isMoment word then some .moment
  else none

end SchemaScript.Toml
