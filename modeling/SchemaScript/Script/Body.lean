import SchemaScript.Script.Column

/-! The body of a table: one line for each column, then one for each check.

Comments stand beside their columns, all starting at the same place, one step after the longest
line. A check ends in a comma only if another line follows in the body. -/
namespace SchemaScript

namespace Body

/-- The line of a column, without its comment. -/
def line (cfg : Config) (c : Column) : String := "\t" ++ c.text cfg ++ ","

/-- The length of the longest line. -/
def width (cfg : Config) (columns : List Column) : Nat :=
  (columns.map fun c => (line cfg c).length).foldr max 0

def spaces (n : Nat) : String := String.ofList (List.replicate n ' ')

/-- A comment that starts after the first `width` characters of a line of length `length`. -/
def remarkText (width length : Nat) (remark : String) : String :=
  spaces (width - length) ++ " -- " ++ remark

/-- The comment that follows a column's line. -/
def marginText (cfg : Config) (width : Nat) (c : Column) : String :=
  match c.remark? with
  | some remark => if cfg.comments then remarkText width (line cfg c).length remark else ""
  | none => ""

/-- What a column puts into the body. -/
def chunk (cfg : Config) (width : Nat) (c : Column) : String :=
  line cfg c ++ marginText cfg width c ++ "\n"

def columnLines (cfg : Config) (columns : List Column) : String :=
  Text.concat (columns.map (chunk cfg (width cfg columns)))

theorem length_line_le_width (cfg : Config) {columns : List Column} {c : Column}
    (h : c ∈ columns) : (line cfg c).length ≤ width cfg columns := by
  induction columns with
  | nil => cases h
  | cons d rest ih =>
    simp only [width, List.map_cons, List.foldr_cons] at ih ⊢
    rcases List.mem_cons.mp h with rfl | hc
    · exact Nat.le_max_left ..
    · exact Nat.le_trans (ih hc) (Nat.le_max_right ..)

theorem chunk_without_comments {cfg : Config} (h : cfg.comments = false) (width : Nat)
    (c : Column) : chunk cfg width c = line cfg c ++ "\n" := by
  unfold chunk marginText
  cases c.remark? <;> simp [h]

end Body

end SchemaScript
