/-! ASCII case.

Names of types, dialects, source databases and reserved words are compared without regard to the
case of the 26 basic Latin letters. Every other character counts as it stands, so a letter that
merely looks like one of them never matches. -/
namespace SchemaScript.Text

/-- The characters with every ASCII capital made small. -/
def fold (s : String) : List Char := s.toList.map Char.toLower

/-- Equality up to ASCII case. -/
def sameFolded (a b : String) : Bool := fold a == fold b

theorem sameFolded_iff (a b : String) : sameFolded a b = true ↔ fold a = fold b := by
  simp [sameFolded]

end SchemaScript.Text
