import SchemaScript.Order.Chain
import Mathlib.Order.Basic
import Mathlib.Data.Nat.Find

/-! Chains that end and chains that do not.

`onChain?` is the chain of an entry as a sequence: the entry, its parent, the parent's parent, as
long as the schema has them. A chain ends (`ChainEnds`) if the sequence does.
`circular_ascent_iff` says that the walk up from an entry tells these chains from the others, and
`onChain?_size` that a chain which ends has at most as many entries as the schema. -/
namespace SchemaScript.Schema

variable {s : Schema} {e p : String × Table}

/-- The entry `n` links up the chain of an entry. -/
def onChain? (s : Schema) (e : String × Table) : Nat → Option (String × Table)
  | 0 => some e
  | n + 1 => (s.onChain? e n).bind fun a => s.parentOf? a.2

/-- Whether the chain of an entry is finite. -/
def ChainEnds (s : Schema) (e : String × Table) : Prop := ∃ n, s.onChain? e n = none

/-- Whether `a` stands on the chain of `e`, at least one link up. -/
def IsAncestor (s : Schema) (a e : String × Table) : Prop := ∃ n, s.onChain? e (n + 1) = some a

/-- A schema without interleaving circles: every chain ends. -/
def ChainsEnd (s : Schema) : Prop := ∀ e ∈ s.entries, s.ChainEnds e

/-! ### Parents -/

/-- A parent link leads to an entry of the schema. -/
theorem parentOf?_eq_some_iff {t : Table} :
    s.parentOf? t = some p ↔ t.parentId? = some p.1 ∧ p ∈ s.entries := by
  unfold parentOf?
  cases t.parentId? with
  | none => simp
  | some id =>
    simp only [Option.map_eq_some_iff, get?_eq_some_iff, Option.some.injEq]
    constructor
    · intro h
      obtain ⟨up, h, rfl⟩ := h
      exact ⟨rfl, h⟩
    · intro h
      obtain ⟨rfl, h⟩ := h
      exact ⟨p.2, h, rfl⟩

theorem mem_of_parentOf? {t : Table} (h : s.parentOf? t = some p) : p ∈ s.entries :=
  (parentOf?_eq_some_iff.mp h).2

/-! ### The chain as a sequence -/

@[simp] theorem onChain?_zero (s : Schema) (e : String × Table) : s.onChain? e 0 = some e := rfl

theorem onChain?_succ (s : Schema) (e : String × Table) (n : Nat) :
    s.onChain? e (n + 1) = (s.parentOf? e.2).bind fun p => s.onChain? p n := by
  induction n with
  | zero => cases h : s.parentOf? e.2 <;> simp [onChain?, h]
  | succ n ih =>
    rw [onChain?, ih]
    cases s.parentOf? e.2 <;> rfl

theorem onChain?_of_root (h : s.parentOf? e.2 = none) (n : Nat) : s.onChain? e (n + 1) = none := by
  rw [onChain?_succ, h]
  rfl

theorem onChain?_of_link (h : s.parentOf? e.2 = some p) (n : Nat) :
    s.onChain? e (n + 1) = s.onChain? p n := by
  rw [onChain?_succ, h]
  rfl

/-- Past its end a chain stays ended. -/
theorem onChain?_add {m : Nat} (h : s.onChain? e m = none) (n : Nat) :
    s.onChain? e (m + n) = none := by
  induction n with
  | zero => exact h
  | succ n ih =>
    rw [← Nat.add_assoc, onChain?, ih]
    rfl

theorem onChain?_of_le {m n : Nat} (h : s.onChain? e m = none) (hmn : m ≤ n) :
    s.onChain? e n = none := by
  rw [← Nat.add_sub_cancel' hmn]
  exact onChain?_add h _

theorem ChainEnds.of_root (h : s.parentOf? e.2 = none) : s.ChainEnds e :=
  ⟨1, onChain?_of_root h 0⟩

theorem chainEnds_iff_of_link (h : s.parentOf? e.2 = some p) : s.ChainEnds e ↔ s.ChainEnds p := by
  constructor
  · intro hends
    obtain ⟨n, hn⟩ := hends
    cases n with
    | zero => cases hn
    | succ n => exact ⟨n, by rw [← onChain?_of_link h, hn]⟩
  · intro hends
    obtain ⟨n, hn⟩ := hends
    exact ⟨n + 1, by rw [onChain?_of_link h, hn]⟩

/-- Induction from the roots down the links of chains that end. -/
@[elab_as_elim]
theorem ChainEnds.induction {P : (e : String × Table) → s.ChainEnds e → Prop}
    (root : ∀ e (h : s.parentOf? e.2 = none), P e (.of_root h))
    (link : ∀ e p (h : s.parentOf? e.2 = some p) (hp : s.ChainEnds p), P p hp →
      P e ((chainEnds_iff_of_link h).mpr hp))
    {e : String × Table} (h : s.ChainEnds e) : P e h := by
  obtain ⟨n, hn⟩ := id h
  induction n generalizing e with
  | zero => cases hn
  | succ n ih =>
    cases hp : s.parentOf? e.2 with
    | none => exact root e hp
    | some p =>
      rw [onChain?_of_link hp] at hn
      exact link e p hp ⟨n, hn⟩ (ih _ hn)

/-- Nothing on a chain that ends is its own parent. -/
theorem ChainEnds.parent_ne (h : s.ChainEnds e) (hp : s.parentOf? e.2 = some p) : p ≠ e := by
  intro heq
  subst heq
  obtain ⟨n, hn⟩ := h
  induction n with
  | zero => cases hn
  | succ n ih =>
    rw [onChain?_of_link hp] at hn
    exact ih hn

/-! ### The walk up -/

/-- A walk that does not come back has reached the end of the chain. -/
theorem onChain?_of_climb {fresh : List String} {t : Table}
    (h : (s.climb fresh t).circular = false) (key : String) :
    s.onChain? (key, t) ((s.climb fresh t).passed.length + 1) = none := by
  induction fresh, t using climb.induct s generalizing key with
  | case1 fresh t hp => exact onChain?_of_root hp _
  | case2 fresh t id up hp hf ih =>
    rw [climb_of_fresh s hp hf] at h ⊢
    rw [onChain?_of_link hp]
    exact ih h id
  | case3 fresh t id up hp hf =>
    rw [climb_of_met s hp hf] at h
    cases h

/-- A walk passes each key at most once. -/
theorem length_passed_le (s : Schema) (fresh : List String) (t : Table) :
    (s.climb fresh t).passed.length ≤ fresh.length := by
  induction fresh, t using climb.induct s with
  | case1 fresh t h => simp [climb_of_root s fresh h]
  | case2 fresh t id up h hf ih =>
    rw [climb_of_fresh s h hf, List.length_cons]
    have := List.length_erase_of_mem hf
    have := List.length_pos_of_mem hf
    omega
  | case3 fresh t id up h hf => simp [climb_of_met s h hf]

/-- A walk up a chain that ends does not come back. What has been met lies further from the end
than what is to come, which is what `hmet` says. -/
theorem circular_climb_of_ended {n : Nat} {fresh : List String} (hended : s.onChain? e (n + 1) = none)
    (hlive : s.onChain? e n ≠ none)
    (hmet : ∀ a ∈ s.entries, a.1 ∉ fresh → s.onChain? a n ≠ none) :
    (s.climb fresh e.2).circular = false := by
  induction n generalizing e fresh with
  | zero =>
    cases hp : s.parentOf? e.2 with
    | none => rw [climb_of_root s fresh hp]
    | some p =>
      rw [onChain?_of_link hp] at hended
      cases hended
  | succ n ih =>
    cases hp : s.parentOf? e.2 with
    | none => rw [climb_of_root s fresh hp]
    | some p =>
      rw [onChain?_of_link hp] at hended hlive
      have hf : p.1 ∈ fresh := by
        by_contra hf
        exact hmet p (mem_of_parentOf? hp) hf hended
      rw [climb_of_fresh s hp hf]
      refine ih hended hlive fun a ha hafresh hnone => ?_
      by_cases hap : a.1 = p.1
      · rw [s.entry_ext ha (mem_of_parentOf? hp) hap] at hnone
        exact hlive hnone
      · exact hmet a ha (fun h => hafresh ((List.mem_erase_of_ne hap).mpr h))
          (onChain?_of_le hnone (Nat.le_succ n))

/-- **The walk up from an entry comes back exactly if the chain of the entry is infinite.** -/
theorem circular_ascent_iff (he : e ∈ s.entries) :
    (s.ascent e).circular = false ↔ s.ChainEnds e := by
  constructor
  · intro h
    exact ⟨_, onChain?_of_climb h e.1⟩
  · intro h
    classical
    have hpos : Nat.find h ≠ 0 := fun h0 => by
      have hspec := Nat.find_spec h
      rw [h0] at hspec
      cases hspec
    obtain ⟨n, hn⟩ := Nat.exists_eq_succ_of_ne_zero hpos
    have hended : s.onChain? e (n + 1) = none := by
      rw [← Nat.succ_eq_add_one, ← hn]
      exact Nat.find_spec h
    have hlive : s.onChain? e n ≠ none := Nat.find_min h (by omega)
    refine circular_climb_of_ended hended hlive fun a ha hafresh => ?_
    have hkey : a.1 = e.1 := by
      by_contra hne
      exact hafresh ((List.mem_erase_of_ne hne).mpr (List.mem_map_of_mem ha))
    rw [s.entry_ext ha he hkey]
    exact hlive

/-- A chain that ends has at most as many entries as the schema. -/
theorem onChain?_size (he : e ∈ s.entries) (h : s.ChainEnds e) : s.onChain? e s.size = none := by
  have hclimb := (circular_ascent_iff he).mpr h
  refine onChain?_of_le (onChain?_of_climb hclimb e.1) ?_
  have hle := length_passed_le s (s.ids.erase e.1) e.2
  have hmem : e.1 ∈ s.ids := List.mem_map_of_mem he
  have hpos := List.length_pos_of_mem hmem
  rw [List.length_erase_of_mem hmem] at hle
  have hsize : s.ids.length = s.size := List.length_map ..
  omega

end SchemaScript.Schema
