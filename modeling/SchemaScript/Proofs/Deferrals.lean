import SchemaScript.Order.Queue
import SchemaScript.Proofs.Ancestry
import SchemaScript.Proofs.Sorting
import Mathlib.Data.String.Basic

/-! How often a table has to wait for its parent.

A link of a chain is late if the parent comes after the child by name. `deferrals` counts the late
links on the chain of a table; along one link the count grows by one if the link is late and stays
as it is otherwise (`deferrals_of_link`). The closed form of the table order sorts by this count
first and by name after that (`writtenBefore`); both orders are total, since they are those of
`place` and `rank`. -/
namespace SchemaScript.Schema

variable {s : Schema} {e p a b : String × Table}

/-! ### The order of names -/

/-- Where a table stands by name, and by key among tables of one name. -/
def place (e : String × Table) : String ×ₗ String := toLex (e.2.name, e.1)

theorem before_iff (a b : String × Table) : before a b = true ↔ place a ≤ place b := by
  simp only [before, place, Bool.or_eq_true, Bool.and_eq_true, decide_eq_true_eq, beq_iff_eq,
    Prod.Lex.toLex_le_toLex]

/-- Entries of one schema are told by their place. -/
theorem eq_of_place_eq (ha : a ∈ s.entries) (hb : b ∈ s.entries) (h : place a = place b) : a = b :=
  s.entry_ext ha hb (congrArg (fun x => (ofLex x).2) h)

theorem perm_byName (s : Schema) : s.byName.Perm s.entries := List.mergeSort_perm ..

theorem mem_byName : e ∈ s.byName ↔ e ∈ s.entries := s.perm_byName.mem_iff

theorem length_byName (s : Schema) : s.byName.length = s.size := s.perm_byName.length_eq

theorem pairwise_byName (s : Schema) : s.byName.Pairwise fun a b => before a b = true :=
  pairwise_mergeSort_of_place before_iff s.entries

/-! ### Late links -/

/-- Whether the link `n` links up the chain of an entry leads to a table that is later by name. -/
def isLateLink (s : Schema) (e : String × Table) (n : Nat) : Bool :=
  match s.onChain? e n, s.onChain? e (n + 1) with
  | some child, some parent => !before parent child
  | _, _ => false

/-- The late links on the chain of an entry. A chain that ends has fewer links than the schema has
tables. -/
def deferrals (s : Schema) (e : String × Table) : Nat :=
  (List.range s.size).countP (s.isLateLink e)

theorem isLateLink_of_ended {n : Nat} (h : s.onChain? e (n + 1) = none) :
    s.isLateLink e n = false := by
  unfold isLateLink
  rw [h]
  cases s.onChain? e n <;> rfl

theorem isLateLink_succ (h : s.parentOf? e.2 = some p) (n : Nat) :
    s.isLateLink e (n + 1) = s.isLateLink p n := by
  simp only [isLateLink, onChain?_of_link h]

theorem isLateLink_zero (h : s.parentOf? e.2 = some p) : s.isLateLink e 0 = !before p e := by
  simp only [isLateLink, onChain?_of_link h, onChain?_zero]

/-- Counting beyond the end of a chain finds no more late links. -/
theorem countP_isLateLink_add {m : Nat} (h : s.onChain? e m = none) (n : Nat) :
    (List.range (m + n)).countP (s.isLateLink e) = (List.range m).countP (s.isLateLink e) := by
  induction n with
  | zero => rfl
  | succ n ih =>
    have hlate : s.isLateLink e (m + n) = false := isLateLink_of_ended (onChain?_add h (n + 1))
    rw [← Nat.add_assoc, List.range_succ, List.countP_append, ih, List.countP_singleton, hlate]
    rfl

/-- Counting up to any point past the end of a chain gives its deferrals. -/
theorem deferrals_eq (he : e ∈ s.entries) {m : Nat} (h : s.onChain? e m = none) :
    s.deferrals e = (List.range m).countP (s.isLateLink e) := by
  have hsize := onChain?_size he ⟨m, h⟩
  unfold deferrals
  rw [← countP_isLateLink_add hsize m, ← countP_isLateLink_add h s.size, Nat.add_comm]

theorem deferrals_of_root (he : e ∈ s.entries) (h : s.parentOf? e.2 = none) : s.deferrals e = 0 := by
  rw [deferrals_eq he (onChain?_of_root h 0)]
  simp [isLateLink_of_ended (onChain?_of_root h 0)]

/-- One more deferral along a late link, none along any other. -/
theorem deferrals_of_link (he : e ∈ s.entries) (h : s.parentOf? e.2 = some p)
    (hends : s.ChainEnds e) :
    s.deferrals e = s.deferrals p + if before p e then 0 else 1 := by
  obtain ⟨n, hn⟩ := (chainEnds_iff_of_link h).mp hends
  rw [deferrals_eq (mem_of_parentOf? h) hn,
    deferrals_eq he (m := n + 1) (by rw [onChain?_of_link h, hn]), List.range_succ_eq_map,
    List.countP_cons, List.countP_map, isLateLink_zero h]
  have hshift : s.isLateLink e ∘ Nat.succ = s.isLateLink p := funext fun k => isLateLink_succ h k
  rw [hshift]
  cases before p e <;> rfl

/-- The counts leave no gap: below a table with some deferrals there is one for each lower count. -/
theorem exists_deferrals_eq (he : e ∈ s.entries) (hends : s.ChainEnds e) {k : Nat}
    (hk : k ≤ s.deferrals e) : ∃ a ∈ s.entries, s.deferrals a = k := by
  induction hends using ChainEnds.induction with
  | root e hroot =>
    rw [deferrals_of_root he hroot] at hk
    exact ⟨e, he, by rw [deferrals_of_root he hroot]; omega⟩
  | link e p hp hends ih =>
    have hlink := deferrals_of_link he hp ((chainEnds_iff_of_link hp).mpr hends)
    by_cases hkp : k ≤ s.deferrals p
    · exact ih (mem_of_parentOf? hp) hkp
    · refine ⟨e, he, ?_⟩
      split at hlink <;> omega

/-! ### The order of writing -/

/-- By deferrals, and by name among tables with as many deferrals. -/
def writtenBefore (s : Schema) (a b : String × Table) : Bool :=
  decide (s.deferrals a < s.deferrals b) || (s.deferrals a == s.deferrals b && before a b)

/-- What `writtenBefore` compares. -/
def rank (s : Schema) (e : String × Table) : Nat ×ₗ (String ×ₗ String) :=
  toLex (s.deferrals e, place e)

theorem writtenBefore_iff (a b : String × Table) :
    s.writtenBefore a b = true ↔ s.rank a ≤ s.rank b := by
  simp only [writtenBefore, rank, Bool.or_eq_true, Bool.and_eq_true, decide_eq_true_eq, beq_iff_eq,
    Prod.Lex.toLex_le_toLex, before_iff]

theorem eq_of_rank_eq (ha : a ∈ s.entries) (hb : b ∈ s.entries) (h : s.rank a = s.rank b) : a = b :=
  eq_of_place_eq ha hb (congrArg (fun x => (ofLex x).2) h)

/-- A parent ranks strictly below its child, whether or not it comes later by name. -/
theorem rank_lt_of_link (he : e ∈ s.entries) (hp : s.parentOf? e.2 = some p)
    (hends : s.ChainEnds e) : s.rank p < s.rank e := by
  have hlink := deferrals_of_link he hp hends
  rw [rank, rank, Prod.Lex.toLex_lt_toLex]
  by_cases hb : before p e = true
  · rw [if_pos hb, Nat.add_zero] at hlink
    refine .inr ⟨hlink.symm, lt_of_le_of_ne ((before_iff p e).mp hb) fun heq => ?_⟩
    exact hends.parent_ne hp (eq_of_place_eq (mem_of_parentOf? hp) he heq)
  · rw [if_neg hb] at hlink
    exact .inl (by omega)

/-- An ancestor ranks strictly below everything that stands on it. -/
theorem rank_lt_of_isAncestor (he : e ∈ s.entries) (ha : s.IsAncestor a e)
    (hends : s.ChainEnds e) : a ∈ s.entries ∧ s.rank a < s.rank e := by
  obtain ⟨n, hn⟩ := ha
  induction n generalizing e with
  | zero =>
    cases hp : s.parentOf? e.2 with
    | none =>
      rw [onChain?_of_root hp] at hn
      cases hn
    | some p =>
      rw [onChain?_of_link hp, onChain?_zero, Option.some.injEq] at hn
      subst hn
      exact ⟨mem_of_parentOf? hp, rank_lt_of_link he hp hends⟩
  | succ n ih =>
    cases hp : s.parentOf? e.2 with
    | none =>
      rw [onChain?_of_root hp] at hn
      cases hn
    | some p =>
      rw [onChain?_of_link hp] at hn
      obtain ⟨hmem, hlt⟩ := ih (mem_of_parentOf? hp) ((chainEnds_iff_of_link hp).mp hends) hn
      exact ⟨hmem, lt_trans hlt (rank_lt_of_link he hp hends)⟩

end SchemaScript.Schema
