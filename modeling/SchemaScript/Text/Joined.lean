/-! Pieces of text put together. -/
namespace SchemaScript.Text

/-- The pieces with `sep` between any two neighbours. -/
def joined (sep : String) : List String → String
  | [] => ""
  | [piece] => piece
  | piece :: next :: rest => piece ++ sep ++ joined sep (next :: rest)

/-- The pieces one after another. -/
def concat : List String → String
  | [] => ""
  | piece :: rest => piece ++ concat rest

/-- A text that was given and is not empty; an empty one counts as absent. -/
def given? (text : Option String) : Option String := text.filter (· ≠ "")

@[simp] theorem joined_nil (sep : String) : joined sep [] = "" := rfl

@[simp] theorem joined_singleton (sep piece : String) : joined sep [piece] = piece := rfl

theorem joined_cons_cons (sep piece next : String) (rest : List String) :
    joined sep (piece :: next :: rest) = piece ++ sep ++ joined sep (next :: rest) := rfl

@[simp] theorem concat_nil : concat [] = "" := rfl

@[simp] theorem concat_cons (piece : String) (rest : List String) :
    concat (piece :: rest) = piece ++ concat rest := rfl

theorem joined_cons (sep piece : String) {rest : List String} (h : rest ≠ []) :
    joined sep (piece :: rest) = piece ++ sep ++ joined sep rest := by
  cases rest with
  | nil => exact absurd rfl h
  | cons next rest => rfl

/-- Nothing is read of pieces if there are none, or only one of which nothing is read. -/
theorem joined_eq_empty_iff {sep : String} (h : sep ≠ "") (pieces : List String) :
    joined sep pieces = "" ↔ pieces = [] ∨ pieces = [""] := by
  match pieces with
  | [] => simp
  | [piece] => simp
  | piece :: next :: rest => simp [joined_cons_cons, h]

theorem concat_append (pieces more : List String) :
    concat (pieces ++ more) = concat pieces ++ concat more := by
  induction pieces with
  | nil => simp
  | cons piece rest ih => rw [List.cons_append, concat_cons, concat_cons, ih, String.append_assoc]

/-- With a separator after each piece there is one more than between them. -/
theorem concat_map_append (sep : String) {pieces : List String} (h : pieces ≠ []) :
    concat (pieces.map (· ++ sep)) = joined sep pieces ++ sep := by
  induction pieces with
  | nil => exact absurd rfl h
  | cons piece rest ih =>
    cases rest with
    | nil => simp
    | cons next rest =>
      rw [List.map_cons, concat_cons, ih (List.cons_ne_nil _ _), joined_cons_cons]
      simp only [String.append_assoc]

/-- A separator after each piece does as well as one between neighbours, if more pieces follow. -/
theorem concat_append_joined (sep : String) (pieces : List String) {more : List String}
    (h : more ≠ []) :
    concat (pieces.map (· ++ sep)) ++ joined sep more = joined sep (pieces ++ more) := by
  induction pieces with
  | nil => simp
  | cons piece rest ih =>
    have hne : rest ++ more ≠ [] := List.append_ne_nil_of_right_ne_nil rest h
    rw [List.map_cons, concat_cons, String.append_assoc, ih, List.cons_append, joined_cons _ _ hne]

@[simp] theorem given?_none : given? none = none := rfl

@[simp] theorem given?_empty : given? (some "") = none := rfl

theorem given?_some (text : String) (h : text ≠ "") : given? (some text) = some text := by
  simp [given?, Option.filter, h]

end SchemaScript.Text
