import SchemaScript.Text.Hidden
import SchemaScript.Text.Joined

/-! Texts as a report shows them: between double quotes, with everything that could not be seen
for what it is written as an escape. -/
namespace SchemaScript.Text

def hexDigits (n : Nat) : String := String.ofList (Nat.toDigits 16 n)

/-- One character of a shown text. Five have an escape of their own, and hidden ones are given by
their number. -/
def shownChar (c : Char) : String :=
  if c = '\x22' then "\\\""
  else if c = '\\' then "\\\\"
  else if c = '\n' then "\\n"
  else if c = '\t' then "\\t"
  else if c = '\r' then "\\r"
  else if c = '\x00' then "\\0"
  else if isHidden c then "\\u\x7b" ++ hexDigits c.toNat ++ "\x7d"
  else c.toString

def shown (s : String) : String := "\"" ++ concat (s.toList.map shownChar) ++ "\""

/-- Several texts in brackets. -/
def shownList (ss : List String) : String := "[" ++ joined ", " (ss.map shown) ++ "]"

example : shownList ["A", "b \"c\"", "d\x07"] = "[\"A\", \"b \\\"c\\\"\", \"d\\u\x7b7\x7d\"]" := by
  decide +kernel

example : shownList [] = "[]" := rfl

end SchemaScript.Text
