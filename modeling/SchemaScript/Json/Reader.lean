import SchemaScript.Json.Value
import SchemaScript.Text.Digits

/-! Reading JSON text.

The grammar is kept strictly: no comma too many, nothing after the value, no bare control
characters in text, no leading zeros. Reading goes by recursive descent over the characters;
each call has a budget, and `Value.read?` gives enough for any text. -/
namespace SchemaScript.Json

def isBlank (c : Char) : Bool := c = ' ' || c = '\n' || c = '\t' || c = '\r'

def skipBlank (cs : List Char) : List Char := cs.dropWhile isBlank

/-! ### Numbers -/

/-- A non-empty run of digits and what follows it. -/
def readDigits (cs : List Char) : Option (List Char × List Char) :=
  match cs.takeWhile Text.isDigit with
  | [] => none
  | ds => some (ds, cs.dropWhile Text.isDigit)

/-- Digits without a leading zero, zero itself apart. -/
def readWhole (cs : List Char) : Option (List Char × List Char) :=
  match readDigits cs with
  | some ('0' :: _ :: _, _) => none
  | r => r

def readFraction : List Char → Option (List Char × List Char)
  | '.' :: rest => (readDigits rest).map fun r => ('.' :: r.1, r.2)
  | cs => some ([], cs)

def readExponent : List Char → Option (List Char × List Char)
  | 'e' :: '-' :: rest => (readDigits rest).map fun r => ('e' :: '-' :: r.1, r.2)
  | 'E' :: '-' :: rest => (readDigits rest).map fun r => ('E' :: '-' :: r.1, r.2)
  | 'e' :: '+' :: rest => (readDigits rest).map fun r => ('e' :: '+' :: r.1, r.2)
  | 'E' :: '+' :: rest => (readDigits rest).map fun r => ('E' :: '+' :: r.1, r.2)
  | 'e' :: rest => (readDigits rest).map fun r => ('e' :: r.1, r.2)
  | 'E' :: rest => (readDigits rest).map fun r => ('E' :: r.1, r.2)
  | cs => some ([], cs)

/-- The value that the parts of a number amount to. -/
def numberValue (negative : Bool) (whole fraction exponent : List Char) : Value :=
  if fraction.isEmpty && exponent.isEmpty && !(negative && whole == ['0']) then
    .integer (if negative then -(Text.digitsValue 10 whole : Int) else Text.digitsValue 10 whole)
  else
    .decimal (String.ofList ((if negative then ['-'] else []) ++ whole ++ fraction ++ exponent))

def readUnsigned (negative : Bool) (cs : List Char) : Option (Value × List Char) := do
  let (whole, rest) ← readWhole cs
  let (fraction, rest) ← readFraction rest
  let (exponent, rest) ← readExponent rest
  pure (numberValue negative whole fraction exponent, rest)

def readNumber : List Char → Option (Value × List Char)
  | '-' :: rest => readUnsigned true rest
  | cs => readUnsigned false cs

/-! ### Text -/

def simpleEscape? (c : Char) : Option Char :=
  if c = '\x22' || c = '\\' || c = '/' then some c
  else if c = 'b' then some '\x08'
  else if c = 'f' then some '\x0c'
  else if c = 'n' then some '\n'
  else if c = 'r' then some '\r'
  else if c = 't' then some '\t'
  else none

/-- Text being read: the characters so far, last first, the first half of a surrogate pair if the
second is due, and whether every half found its partner. -/
structure Draft where
  done : List Char := []
  half : Option Nat := none
  sound : Bool := true

namespace Draft

def push (d : Draft) (c : Char) : Draft :=
  { done := c :: d.done, half := none, sound := d.sound && d.half.isNone }

/-- A code unit given by its number. -/
def pushUnit (d : Draft) (n : Nat) : Draft :=
  if 0xd800 ≤ n ∧ n < 0xdc00 then { d with half := some n, sound := d.sound && d.half.isNone }
  else if 0xdc00 ≤ n ∧ n < 0xe000 then
    match d.half with
    | some h =>
      { d with done := Char.ofNat (0x10000 + (h - 0xd800) * 0x400 + (n - 0xdc00)) :: d.done
               half := none }
    | none => { d with sound := false }
  else d.push (Char.ofNat n)

/-- The text, unless some half of a pair stands alone. -/
def finish (d : Draft) : Option String :=
  if d.sound && d.half.isNone then some (String.ofList d.done.reverse) else none

end Draft

/-- The text up to the closing quote, and what follows it. -/
def readText (d : Draft) : List Char → Option (Option String × List Char)
  | [] => none
  | '\x22' :: rest => some (d.finish, rest)
  | '\\' :: 'u' :: w :: x :: y :: z :: rest =>
    match Text.hexCode? [w, x, y, z] with
    | some n => readText (d.pushUnit n) rest
    | none => none
  | '\\' :: c :: rest =>
    match simpleEscape? c with
    | some e => readText (d.push e) rest
    | none => none
  | c :: rest => if c.toNat < 0x20 then none else readText (d.push c) rest

def textValue : Option String → Value
  | some s => .string s
  | none => .unreadable

/-! ### Values -/

/-- An object, given its members, last first, and whether all their names are text. -/
def objectValue (sound : Bool) (members : List (String × Value)) : Value :=
  if sound then .object members.reverse else .unreadable

mutual

def readValue : Nat → List Char → Option (Value × List Char)
  | 0, _ => none
  | budget + 1, cs =>
    match cs with
    | '\x22' :: rest => (readText {} rest).map fun r => (textValue r.1, r.2)
    | '[' :: rest =>
      match skipBlank rest with
      | ']' :: after => some (.array [], after)
      | rest => readItems budget [] rest
    | '\x7b' :: rest =>
      match skipBlank rest with
      | '\x7d' :: after => some (.object [], after)
      | rest => readMembers budget true [] rest
    | 't' :: 'r' :: 'u' :: 'e' :: rest => some (.bool true, rest)
    | 'f' :: 'a' :: 'l' :: 's' :: 'e' :: rest => some (.bool false, rest)
    | 'n' :: 'u' :: 'l' :: 'l' :: rest => some (.null, rest)
    | cs => readNumber cs

/-- The items up to the closing bracket; `done` holds those before them, last first. -/
def readItems : Nat → List Value → List Char → Option (Value × List Char)
  | 0, _, _ => none
  | budget + 1, done, cs =>
    match readValue budget (skipBlank cs) with
    | none => none
    | some (v, rest) =>
      match skipBlank rest with
      | ',' :: rest => readItems budget (v :: done) rest
      | ']' :: rest => some (.array (v :: done).reverse, rest)
      | _ => none

/-- The members up to the closing brace, in the same way. -/
def readMembers : Nat → Bool → List (String × Value) → List Char → Option (Value × List Char)
  | 0, _, _, _ => none
  | budget + 1, sound, done, cs =>
    match skipBlank cs with
    | '\x22' :: rest =>
      match readText {} rest with
      | none => none
      | some (name, rest) =>
        match skipBlank rest with
        | ':' :: rest =>
          match readValue budget (skipBlank rest) with
          | none => none
          | some (v, rest) =>
            let sound := sound && name.isSome
            let done := (name.getD "", v) :: done
            match skipBlank rest with
            | ',' :: rest => readMembers budget sound done rest
            | '\x7d' :: rest => some (objectValue sound done, rest)
            | _ => none
        | _ => none
    | _ => none

end

/-- The value that a text is, with nothing but blanks around it. -/
def Value.read? (text : String) : Option Value :=
  let cs := text.toList
  match readValue (2 * cs.length + 2) (skipBlank cs) with
  | some (v, rest) => if (skipBlank rest).isEmpty then some v else none
  | none => none

end SchemaScript.Json
