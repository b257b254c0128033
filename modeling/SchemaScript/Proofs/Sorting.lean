import Mathlib.Data.List.Forall2
import Mathlib.Data.List.Sort
import Mathlib.Data.Prod.Lex

/-! Sorting by place.

Tables and sequences are sorted by comparisons that look at one thing of an item only, its place in a
linear order. A list sorted by place is the only sorted arrangement of its items if no two of them
share a place (`eq_mergeSort_of_place`), so how the items were arranged before does not show
(`mergeSort_eq_of_perm`). Items of one place stay as they were (`filter_mergeSort_of_place`), and that
settles the arrangement of all of them (`eq_of_filter_place_eq`). -/
namespace SchemaScript

section Place
variable {α β : Type} [LinearOrder β] {le : α → α → Bool} {place : α → β}

theorem trans_of_place (hle : ∀ a b, le a b = true ↔ place a ≤ place b) (a b c : α)
    (hab : le a b = true) (hbc : le b c = true) : le a c = true :=
  (hle a c).mpr (le_trans ((hle a b).mp hab) ((hle b c).mp hbc))

theorem total_of_place (hle : ∀ a b, le a b = true ↔ place a ≤ place b) (a b : α) :
    (le a b || le b a) = true := by
  rw [Bool.or_eq_true, hle, hle]
  exact le_total _ _

theorem pairwise_mergeSort_of_place (hle : ∀ a b, le a b = true ↔ place a ≤ place b) (l : List α) :
    (l.mergeSort le).Pairwise fun a b => le a b = true :=
  List.pairwise_mergeSort (trans_of_place hle) (total_of_place hle) l

/-- Items of different places have one sorted arrangement. -/
theorem eq_mergeSort_of_place (hle : ∀ a b, le a b = true ↔ place a ≤ place b) {l l' : List α}
    (hplace : ∀ a ∈ l', ∀ b ∈ l', place a = place b → a = b) (hperm : l.Perm l')
    (hsorted : l.Pairwise fun a b => le a b = true) : l = l'.mergeSort le := by
  have hsort := List.mergeSort_perm l' le
  refine List.Perm.eq_of_pairwise (fun a b ha hb hab hba => ?_) hsorted
    (pairwise_mergeSort_of_place hle l') (hperm.trans hsort.symm)
  exact hplace a (hperm.mem_iff.mp ha) b (hsort.mem_iff.mp hb)
    (le_antisymm ((hle a b).mp hab) ((hle b a).mp hba))

theorem mergeSort_eq_of_perm (hle : ∀ a b, le a b = true ↔ place a ≤ place b) {l l' : List α}
    (hplace : ∀ a ∈ l', ∀ b ∈ l', place a = place b → a = b) (hperm : l.Perm l') :
    l.mergeSort le = l'.mergeSort le :=
  eq_mergeSort_of_place hle hplace ((List.mergeSort_perm l le).trans hperm)
    (pairwise_mergeSort_of_place hle l)

/-- Items that all compare alike stay as they were. -/
theorem filter_mergeSort_of_place (hle : ∀ a b, le a b = true ↔ place a ≤ place b) {l : List α}
    {p : α → Bool} (hp : ∀ a b, p a = true → p b = true → le a b = true) :
    (l.mergeSort le).filter p = l.filter p := by
  have hkept : (l.filter p).Pairwise fun a b => le a b = true :=
    List.pairwise_of_forall_mem_list fun a ha b hb =>
      hp a b (List.of_mem_filter ha) (List.of_mem_filter hb)
  have hsub := List.sublist_mergeSort (trans_of_place hle) (total_of_place hle) hkept
    List.filter_sublist
  have hfiltered := hsub.filter p
  rw [List.filter_filter, funext fun a => Bool.and_self (p a)] at hfiltered
  exact (hfiltered.eq_of_length ((List.mergeSort_perm l le).filter p).length_eq.symm).symm

/-- Ascending lists with the same items in each place, in the same order, are the same. -/
theorem eq_of_filter_place_eq {l l' : List α} (h : l.Pairwise fun a b => place a ≤ place b)
    (h' : l'.Pairwise fun a b => place a ≤ place b)
    (hfilter : ∀ a, l.filter (fun b => place b = place a) = l'.filter fun b => place b = place a) :
    l = l' := by
  induction l generalizing l' with
  | nil =>
    cases l' with
    | nil => rfl
    | cons b l' =>
      have hnone := hfilter b
      simp at hnone
  | cons a l ih =>
    have hmem (c : α) : c ∈ a :: l ↔ c ∈ l' := by
      have hiff : c ∈ (a :: l).filter (fun b => place b = place c) ↔
        c ∈ l'.filter fun b => place b = place c := by rw [hfilter c]
      simpa only [List.mem_filter, decide_true, and_true] using hiff
    cases l' with
    | nil => cases (hmem a).mp (List.mem_cons_self ..)
    | cons b l' =>
      rw [List.pairwise_cons] at h h'
      -- Each list has the head of the other, so neither head comes before the other.
      have hab : place a ≤ place b := by
        rcases List.mem_cons.mp ((hmem b).mpr (List.mem_cons_self ..)) with rfl | hb
        · exact le_rfl
        · exact h.1 b hb
      have hba : place b ≤ place a := by
        rcases List.mem_cons.mp ((hmem a).mp (List.mem_cons_self ..)) with rfl | ha
        · exact le_rfl
        · exact h'.1 a ha
      have hheads := hfilter a
      simp only [List.filter_cons, le_antisymm hba hab, decide_true, if_true] at hheads
      obtain ⟨rfl, _⟩ := List.cons.inj hheads
      congr 1
      refine ih h.2 h'.2 fun c => ?_
      have htails := hfilter c
      by_cases hc : place a = place c
      · simpa only [List.filter_cons, hc, decide_true, if_true, List.cons.injEq, true_and] using htails
      · simpa only [List.filter_cons, hc, decide_false, Bool.false_eq_true, if_false] using htails

end Place

/-- Sorting keeps related lists related if related items compare alike. -/
theorem forall₂_mergeSort {α β : Type} {r : α → β → Prop} {l : List α} {l' : List β}
    {le : α → α → Bool} {le' : β → β → Bool} (h : List.Forall₂ r l l')
    (hle : ∀ a b, r a b → ∀ c d, r c d → le a c = le' b d) :
    List.Forall₂ r (l.mergeSort le) (l'.mergeSort le') := by
  -- The pairs of related items are sorted once; their two sides are then the two sorted lists.
  obtain ⟨pairs, hpairs, rfl, rfl⟩ :
      ∃ pairs : List (α × β), (∀ x ∈ pairs, r x.1 x.2) ∧ pairs.map Prod.fst = l ∧
        pairs.map Prod.snd = l' := by
    induction h with
    | nil => exact ⟨[], by simp, rfl, rfl⟩
    | @cons a b _ _ hab _ ih =>
      obtain ⟨pairs, hpairs, rfl, rfl⟩ := ih
      exact ⟨(a, b) :: pairs, List.forall_mem_cons.mpr ⟨hab, hpairs⟩, rfl, rfl⟩
  have hleft : (pairs.mergeSort fun x y => le x.1 y.1).map Prod.fst =
      (pairs.map Prod.fst).mergeSort le := List.map_mergeSort fun _ _ _ _ => rfl
  have hright : (pairs.mergeSort fun x y => le x.1 y.1).map Prod.snd =
      (pairs.map Prod.snd).mergeSort le' :=
    List.map_mergeSort fun x hx y hy => hle _ _ (hpairs x hx) _ _ (hpairs y hy)
  rw [← hleft, ← hright, List.forall₂_map_left_iff, List.forall₂_map_right_iff, List.forall₂_same]
  exact fun x hx => hpairs x (List.mem_mergeSort.mp hx)

end SchemaScript
