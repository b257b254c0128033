import SchemaScript.Keyed
import SchemaScript.Text.Joined

/-! JSON values.

An object keeps its members as they were written, repeated names included. Only whole numbers
have a value here; a number with a fraction or an exponent, and minus zero, stay as text. Text
whose escapes name half a surrogate pair is no text of ours: a value that holds such a text, or
has a member named by one, is `unreadable`, well-formed but of use to nobody. -/
namespace SchemaScript.Json

inductive Value where
  | null
  | bool (b : Bool)
  | integer (n : Int)
  | decimal (written : String)
  | string (s : String)
  | array (items : List Value)
  | object (members : List (String × Value))
  | unreadable
  deriving Inhabited

namespace Value

/-! ### Repeated members -/

mutual

/-- The value with repeated members reduced to the last one of each name, at any depth. -/
def collapse : Value → Value
  | array items => array (collapseItems items)
  | object members => object (Keyed.ofList (collapseMembers members)).entries
  | v => v

def collapseItems : List Value → List Value
  | [] => []
  | v :: rest => v.collapse :: collapseItems rest

def collapseMembers : List (String × Value) → List (String × Value)
  | [] => []
  | (name, v) :: rest => (name, v.collapse) :: collapseMembers rest

end

/-- The member of this name, if the value is an object that has one. -/
def member? (name : String) : Value → Option Value
  | object members => members.lookup name
  | _ => none

/-! ### Text -/

def hexDigit (n : Nat) : Char := Nat.digitChar (n % 16)

/-- A character between quotes. Only quotes, backslashes and the controls below the space are
escaped. -/
def escaped (c : Char) : String :=
  if c = '\x22' then "\\\""
  else if c = '\\' then "\\\\"
  else if c = '\x08' then "\\b"
  else if c = '\x0c' then "\\f"
  else if c = '\n' then "\\n"
  else if c = '\r' then "\\r"
  else if c = '\t' then "\\t"
  else if c.toNat < 0x20 then
    "\\u00" ++ String.ofList [hexDigit (c.toNat / 16), hexDigit c.toNat]
  else c.toString

def quoted (s : String) : String := "\"" ++ String.join (s.toList.map escaped) ++ "\""

mutual

/-- The value with no blanks in it. What cannot be read is written as null. -/
def text : Value → String
  | null | unreadable => "null"
  | bool b => if b then "true" else "false"
  | integer n => toString n
  | decimal written => written
  | string s => quoted s
  | array items => "[" ++ Text.joined "," (itemTexts items) ++ "]"
  | object members => "\x7b" ++ Text.joined "," (memberTexts members) ++ "\x7d"

def itemTexts : List Value → List String
  | [] => []
  | v :: rest => v.text :: itemTexts rest

def memberTexts : List (String × Value) → List String
  | [] => []
  | (name, v) :: rest => (quoted name ++ ":" ++ v.text) :: memberTexts rest

end

end Value

end SchemaScript.Json
