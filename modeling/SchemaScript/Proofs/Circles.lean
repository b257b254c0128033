import SchemaScript.Proofs.Blame
import SchemaScript.Proofs.Embedding
import Mathlib.Data.Fintype.Pigeonhole
import Mathlib.Data.Set.Finite.Basic

/-! Circles among parents, and the table that is named for one.

A chain that does not end runs into a circle, since the schema has finitely many tables
(`leadsIn_of_infinite`). The fault names a table whose chain does so, the first by name and key
(`Blames`). That table need not stand on the circle itself: it may hang off it (`blamed_off_circle`).
It does stand on one exactly if every table that hangs off a circle comes after some table on a circle
(`circle_names_first_leading_in`). -/
namespace SchemaScript.Schema

variable {s : Schema} {a c e : String × Table}

/-- Whether the parents of a table lead back to it. -/
def OnCircle (s : Schema) (e : String × Table) : Prop := s.IsAncestor e e

/-- Whether a circle stands on the chain of a table, at the table itself or further up. -/
def LeadsIn (s : Schema) (e : String × Table) : Prop := ∃ n c, s.onChain? e n = some c ∧ s.OnCircle c

/-- What is so of the table that is named for a circle. -/
structure Blames (s : Schema) (e : String × Table) : Prop where
  mem : e ∈ s.entries
  leads : s.LeadsIn e
  /-- No other table that leads into a circle comes before it. -/
  first : ∀ a ∈ s.entries, s.LeadsIn a → before e a = true

/-! ### Chains that run into a circle -/

/-- A chain goes on from each of its entries as the chain of that entry. -/
theorem onChain?_trans (s : Schema) (e : String × Table) (m n : Nat) :
    s.onChain? e (m + n) = (s.onChain? e m).bind fun a => s.onChain? a n := by
  induction n with
  | zero => cases s.onChain? e m <;> rfl
  | succ n ih =>
    rw [← Nat.add_assoc, onChain?, ih]
    cases s.onChain? e m <;> rfl

theorem OnCircle.leadsIn (h : s.OnCircle e) : s.LeadsIn e := ⟨0, e, rfl, h⟩

/-- An entry met twice stands on a circle. -/
theorem onCircle_of_repeat {m n : Nat} (hmn : m < n) (hm : s.onChain? e m = some c)
    (hn : s.onChain? e n = some c) : s.OnCircle c := by
  obtain ⟨k, rfl⟩ := Nat.exists_eq_add_of_lt hmn
  rw [Nat.add_assoc, onChain?_trans, hm] at hn
  exact ⟨k, hn⟩

/-- The chain of an entry on a circle goes round and round. -/
theorem OnCircle.onChain?_ne_none (h : s.OnCircle e) (n : Nat) : s.onChain? e n ≠ none := by
  obtain ⟨k, hk⟩ := h
  induction n using Nat.strong_induction_on with
  | h n ih =>
    by_cases hn : n < k + 1
    · intro hnone
      cases (onChain?_of_le hnone hn.le).symm.trans hk
    · have hround : s.onChain? e n = s.onChain? e (n - (k + 1)) := by
        rw [← Nat.add_sub_of_le (Nat.le_of_not_lt hn), onChain?_trans, hk, Nat.add_sub_cancel_left]
        rfl
      rw [hround]
      exact ih _ (by omega)

theorem LeadsIn.not_chainEnds (h : s.LeadsIn e) : ¬s.ChainEnds e := by
  obtain ⟨m, c, hc, hcircle⟩ := h
  intro hends
  obtain ⟨n, hn⟩ := hends
  refine hcircle.onChain?_ne_none n ?_
  have hlate := onChain?_of_le hn (Nat.le_add_left n m)
  rwa [onChain?_trans, hc] at hlate

/-- An infinite chain has too few tables not to meet one of them twice. -/
theorem leadsIn_of_infinite (he : e ∈ s.entries) (h : ¬s.ChainEnds e) : s.LeadsIn e := by
  have hlive (n : Nat) : ∃ a, s.onChain? e n = some a :=
    Option.ne_none_iff_exists'.mp fun hn => h ⟨n, hn⟩
  choose met hmet using hlive
  have hfinite : Finite {a | a ∈ s.entries} := (List.finite_toSet s.entries).to_subtype
  obtain ⟨m, n, hne, hsame⟩ := Finite.exists_ne_map_eq_of_infinite fun n : Nat =>
    (⟨met n, mem_of_onChain? he (hmet n)⟩ : {a | a ∈ s.entries})
  have hsame : met m = met n := congrArg Subtype.val hsame
  rcases Nat.lt_or_gt_of_ne hne with hlt | hlt
  · exact ⟨m, met m, hmet m, onCircle_of_repeat hlt (hmet m) (hsame ▸ hmet n)⟩
  · exact ⟨n, met n, hmet n, onCircle_of_repeat hlt (hmet n) (hsame ▸ hmet m)⟩

/-! ### The table that is named -/

theorem firstCircular?_eq_some_iff : s.firstCircular? = some e ↔ s.Blames e := by
  constructor
  · intro h
    obtain ⟨he, hends, hleast⟩ := firstCircular?_spec h
    exact ⟨he, leadsIn_of_infinite he hends, fun a ha hleads => hleast a ha hleads.not_chainEnds⟩
  · intro h
    cases hfirst : s.firstCircular? with
    | none => exact absurd (firstCircular?_eq_none_iff.mp hfirst e h.mem) h.leads.not_chainEnds
    | some d =>
      obtain ⟨hd, hends, hleast⟩ := firstCircular?_spec hfirst
      have hde := (before_iff d e).mp (hleast e h.mem h.leads.not_chainEnds)
      have hed := (before_iff e d).mp (h.first d hd (leadsIn_of_infinite hd hends))
      rw [eq_of_place_eq hd h.mem (le_antisymm hde hed)]

theorem idsInOrder_eq_error_iff {f : Fault} :
    s.idsInOrder = .error f ↔ ∃ e, s.Blames e ∧ f = .interleaveCycle e.2.name := by
  simp only [← firstCircular?_eq_some_iff, ← inOrder_eq_error_iff]
  unfold idsInOrder
  cases s.inOrder <;> simp [Except.map]

/-- The table that is named stands on a circle if those that only hang off one come later. -/
theorem Blames.onCircle_iff (h : s.Blames e) :
    s.OnCircle e ↔ ∀ a ∈ s.entries, s.LeadsIn a → ¬s.OnCircle a →
      ∃ c ∈ s.entries, s.OnCircle c ∧ before c a = true := by
  constructor
  · intro hcircle a ha hleads _
    exact ⟨e, h.mem, hcircle, h.first a ha hleads⟩
  · intro hlater
    by_contra hoff
    obtain ⟨c, hc, hcircle, hce⟩ := hlater e h.mem h.leads hoff
    have hec := h.first c hc hcircle.leadsIn
    have hsame := le_antisymm ((before_iff c e).mp hce) ((before_iff e c).mp hec)
    rw [eq_of_place_eq hc h.mem hsame] at hcircle
    exact hoff hcircle

/-- **A fault tells of a circle, and names the first table that leads into one.** Putting tables in
order fails exactly if some table stands on a circle; the one that is named may hang off the circle,
but not if each such table comes after some table on a circle. -/
theorem circle_names_first_leading_in (s : Schema) :
    ((∃ f, s.idsInOrder = .error f) ↔ ∃ c ∈ s.entries, s.OnCircle c) ∧
      ∀ f, s.idsInOrder = .error f ↔
        ∃ e, s.Blames e ∧ f = .interleaveCycle e.2.name ∧
          (s.OnCircle e ↔ ∀ a ∈ s.entries, s.LeadsIn a → ¬s.OnCircle a →
            ∃ c ∈ s.entries, s.OnCircle c ∧ before c a = true) := by
  constructor
  · constructor
    · intro h
      obtain ⟨f, hf⟩ := h
      obtain ⟨e, hblames, _⟩ := idsInOrder_eq_error_iff.mp hf
      obtain ⟨n, c, hc, hcircle⟩ := hblames.leads
      exact ⟨c, mem_of_onChain? hblames.mem hc, hcircle⟩
    · intro h
      obtain ⟨c, hc, hcircle⟩ := h
      cases hfirst : s.firstCircular? with
      | none =>
        exact absurd (firstCircular?_eq_none_iff.mp hfirst c hc) hcircle.leadsIn.not_chainEnds
      | some e =>
        exact ⟨_, idsInOrder_eq_error_iff.mpr ⟨e, firstCircular?_eq_some_iff.mp hfirst, rfl⟩⟩
  · intro f
    rw [idsInOrder_eq_error_iff]
    exact exists_congr fun e => and_congr_right fun h => (and_iff_left h.onCircle_iff).symm

/-! ### A table beside the circle -/

/-- A table interleaved in itself. -/
def looped : String × Table := ("t2", (Table.named "t2" "B").interleavedIn { id := "t2" })

/-- A table interleaved in `looped`, before which it comes by name. -/
def hung : String × Table := ("t1", (Table.named "t1" "A").interleavedIn { id := "t2" })

def hanging : Schema := ofTables [hung.2, looped.2]

/-- From the table that hangs off the circle no link leads back to it. -/
theorem onChain?_hung (n : Nat) : hanging.onChain? hung (n + 1) = some looped := by
  induction n with
  | zero => rfl
  | succ n ih =>
    rw [onChain?, ih]
    rfl

theorem blames_hung : hanging.Blames hung where
  mem := List.mem_cons_self ..
  leads := ⟨1, looped, onChain?_hung 0, 0, rfl⟩
  first a ha _ := by
    have hall : ∀ a ∈ hanging.entries, before hung a = true := by decide
    exact hall a ha

/-- The table that is named need not stand on the circle it leads into. -/
theorem blamed_off_circle :
    ¬∀ (s : Schema) (name : String), s.idsInOrder = .error (.interleaveCycle name) →
      ∃ e ∈ s.entries, e.2.name = name ∧ s.OnCircle e := by
  intro h
  have hentries : hanging.entries = [hung, looped] := rfl
  obtain ⟨e, he, hname, n, hn⟩ := h hanging "A" (idsInOrder_eq_error_iff.mpr ⟨hung, blames_hung, rfl⟩)
  rw [hentries, List.mem_cons, List.mem_singleton] at he
  rcases he with rfl | rfl
  · rw [onChain?_hung] at hn
    exact absurd (congrArg (Option.map Prod.fst) hn) (by decide)
  · exact absurd hname (by decide)

end SchemaScript.Schema
