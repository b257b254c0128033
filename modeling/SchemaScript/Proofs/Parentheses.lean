import SchemaScript.Text.Joined

/-! Texts as a reader finds them who passes over everything in parentheses.

A text whose parentheses come in pairs (`Closed`) may stand in parentheses, and nothing of it is left
outside them (`outer_of_closes`). -/
namespace SchemaScript.Text

/-- What stands outside all parentheses, where `depth` of them are open. -/
def outer : Nat → List Char → List Char
  | _, [] => []
  | depth, c :: rest =>
    if c = '(' then outer (depth + 1) rest
    else if depth = 0 then c :: outer 0 rest
    else if c = ')' then outer (depth - 1) rest
    else outer depth rest

/-- Whether the parentheses of a text, `depth` of which are open, are closed one by one. -/
def closes : Nat → List Char → Bool
  | depth, [] => depth == 0
  | depth, c :: rest =>
    if c = '(' then closes (depth + 1) rest
    else if c = ')' then depth != 0 && closes (depth - 1) rest
    else closes depth rest

/-- The text has its parentheses in pairs. -/
def Closed (text : String) : Prop := closes 0 text.toList = true

instance : DecidablePred Closed := fun text => inferInstanceAs (Decidable (closes 0 text.toList = true))

/-- Nothing of a text that closes its parentheses stands outside those around it. -/
theorem outer_of_closes {text : List Char} {depth : Nat} (h : closes depth text = true) (n : Nat)
    (rest : List Char) : outer (n + 1 + depth) (text ++ rest) = outer (n + 1) rest := by
  induction text generalizing depth with
  | nil =>
    rw [closes, beq_iff_eq] at h
    rw [h]
    rfl
  | cons c text ih =>
    rw [closes] at h
    rw [List.cons_append, outer]
    have hdepth : n + 1 + depth ≠ 0 := by omega
    by_cases hopen : c = '('
    · rw [if_pos hopen] at h ⊢
      exact ih h
    · rw [if_neg hopen] at h ⊢
      rw [if_neg hdepth]
      by_cases hclose : c = ')'
      · rw [if_pos hclose, Bool.and_eq_true, bne_iff_ne] at h
        rw [if_pos hclose, Nat.add_sub_assoc (Nat.pos_of_ne_zero h.1)]
        exact ih h.2
      · rw [if_neg hclose] at h ⊢
        exact ih h

/-- What has its parentheses in pairs does not count for those around it. -/
theorem closes_append {text : List Char} {depth : Nat} (h : closes depth text = true) (n : Nat)
    (rest : List Char) : closes (n + depth) (text ++ rest) = closes n rest := by
  induction text generalizing depth with
  | nil =>
    rw [closes, beq_iff_eq] at h
    rw [h]
    rfl
  | cons c text ih =>
    rw [closes] at h
    rw [List.cons_append, closes]
    by_cases hopen : c = '('
    · rw [if_pos hopen] at h ⊢
      exact ih h
    · rw [if_neg hopen] at h ⊢
      by_cases hclose : c = ')'
      · rw [if_pos hclose, Bool.and_eq_true, bne_iff_ne] at h
        rw [if_pos hclose, Nat.add_sub_assoc (Nat.pos_of_ne_zero h.1), ih h.2]
        have hdepth : n + depth ≠ 0 := by omega
        rw [bne_iff_ne.mpr hdepth, Bool.true_and]
      · rw [if_neg hclose] at h ⊢
        exact ih h

/-- Of `clause` it is `outside` that stands outside its parentheses, whatever follows it. -/
def Leaves (clause outside : String) : Prop :=
  ∀ rest, outer 0 (clause.toList ++ rest) = outside.toList ++ outer 0 rest

theorem leaves_empty : Leaves "" "" := fun _ => rfl

theorem Leaves.append {clause outside more outsideMore : String} (h : Leaves clause outside)
    (hmore : Leaves more outsideMore) : Leaves (clause ++ more) (outside ++ outsideMore) := by
  intro rest
  rw [String.toList_append, List.append_assoc, h, hmore, String.toList_append, List.append_assoc]

theorem Leaves.outer_eq {clause outside : String} (h : Leaves clause outside) :
    outer 0 clause.toList = outside.toList := by
  have hwhole := h []
  rwa [List.append_nil, outer, List.append_nil] at hwhole

/-- Of a text in parentheses nothing is left. -/
theorem outer_parenthesized {before inner : List Char} (hbefore : '(' ∉ before)
    (hinner : closes 0 inner = true) (rest : List Char) :
    outer 0 (before ++ '(' :: (inner ++ ')' :: rest)) = before ++ outer 0 rest := by
  induction before with
  | nil =>
    rw [List.nil_append, outer, if_pos rfl, outer_of_closes hinner]
    rfl
  | cons c before ih =>
    rw [List.mem_cons, not_or] at hbefore
    rw [List.cons_append, outer, if_neg (Ne.symm hbefore.1), if_pos rfl, ih hbefore.2]
    rfl

theorem leaves_parenthesized {clause before inner : String} (hbefore : '(' ∉ before.toList)
    (hinner : Closed inner) (h : clause.toList = before.toList ++ '(' :: (inner.toList ++ [')'])) :
    Leaves clause before := by
  intro rest
  rw [h, ← outer_parenthesized hbefore hinner]
  simp

theorem Closed.append {text more : String} (h : Closed text) (hmore : Closed more) :
    Closed (text ++ more) := by
  unfold Closed
  rw [String.toList_append, closes_append h 0]
  exact hmore

theorem Closed.parenthesized {text : String} (h : Closed text) : Closed ("(" ++ text ++ ")") := by
  unfold Closed
  rw [String.toList_append, String.toList_append, List.append_assoc]
  exact closes_append h 1 [')']

end SchemaScript.Text
