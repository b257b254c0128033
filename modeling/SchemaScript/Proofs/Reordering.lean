import SchemaScript.Proofs.Agreement
import SchemaScript.Model.Sequence

/-! Maps enumerated in another order.

A map lists its entries in some order that nothing should depend on. `Keyed.ReordersBy` relates two
maps with the same entries in any two orders, and `Schema.Reorders` two schemas all of whose maps are
so related: the tables, the columns of each table, and the options of each column. Lookups cannot tell
such schemas apart (`Keyed.ReordersBy.get?`). -/
namespace SchemaScript

variable {α β : Type} {r : α → β → Prop}

/-! ### Related options and lists -/

theorem eq_none_of_rel {x : Option α} {y : Option β} (h : Option.Rel r x y) (hx : x = none) :
    y = none := by
  subst hx
  cases h
  rfl

theorem exists_of_rel {x : Option α} {y : Option β} (h : Option.Rel r x y) {a : α}
    (hx : x = some a) : ∃ b, y = some b ∧ r a b := by
  subst hx
  cases h with
  | some hab => exact ⟨_, rfl, hab⟩

theorem rel_imp {r' : α → β → Prop} {x : Option α} {y : Option β} (h : Option.Rel r x y)
    (himp : ∀ a b, r a b → r' a b) : Option.Rel r' x y := by
  cases h with
  | some hab => exact .some (himp _ _ hab)
  | none => exact .none

theorem exists_of_forall₂ {l : List α} {l' : List β} (h : List.Forall₂ r l l') {a : α}
    (ha : a ∈ l) : ∃ b ∈ l', r a b := by
  induction h with
  | nil => cases ha
  | @cons c d l l' hcd _ ih =>
    rcases List.mem_cons.mp ha with rfl | ha
    · exact ⟨d, List.mem_cons_self .., hcd⟩
    · obtain ⟨b, hb, hab⟩ := ih ha
      exact ⟨b, List.mem_cons_of_mem _ hb, hab⟩

/-! ### Maps -/

namespace Keyed

/-- One entry against another: the same key, related values. -/
def SameEntry (r : α → β → Prop) (x : String × α) (y : String × β) : Prop := x.1 = y.1 ∧ r x.2 y.2

/-- The same keys with related values, enumerated in any two orders. -/
def ReordersBy (r : α → β → Prop) (a : Keyed α) (b : Keyed β) : Prop :=
  ∃ l, List.Forall₂ (SameEntry r) a.entries l ∧ l.Perm b.entries

namespace ReordersBy

theorem refl {r : α → α → Prop} (h : ∀ x, r x x) (a : Keyed α) : ReordersBy r a a :=
  ⟨a.entries, List.forall₂_same.mpr fun x _ => ⟨rfl, h x.2⟩, .refl _⟩

theorem of_perm {a b : Keyed α} (h : a.entries.Perm b.entries) {r : α → α → Prop}
    (hr : ∀ x, r x x) : ReordersBy r a b :=
  ⟨a.entries, List.forall₂_same.mpr fun x _ => ⟨rfl, hr x.2⟩, h⟩

variable {a : Keyed α} {b : Keyed β}

theorem exists_left (h : ReordersBy r a b) {x : String × α} (hx : x ∈ a.entries) :
    ∃ y ∈ b.entries, SameEntry r x y := by
  obtain ⟨l, hl, hperm⟩ := h
  obtain ⟨y, hy, hxy⟩ := exists_of_forall₂ hl hx
  exact ⟨y, hperm.mem_iff.mp hy, hxy⟩

theorem exists_right (h : ReordersBy r a b) {y : String × β} (hy : y ∈ b.entries) :
    ∃ x ∈ a.entries, SameEntry r x y := by
  obtain ⟨l, hl, hperm⟩ := h
  exact exists_of_forall₂ hl.flip (hperm.mem_iff.mpr hy)

/-- A lookup does not depend on the order of the entries. -/
theorem get? (h : ReordersBy r a b) (key : String) : Option.Rel r (a.get? key) (b.get? key) := by
  cases ha : a.get? key with
  | some x =>
    obtain ⟨⟨_, y⟩, hy, rfl, hxy⟩ := h.exists_left (a.get?_eq_some_iff.mp ha)
    rw [b.get?_eq_some_iff.mpr hy]
    exact .some hxy
  | none =>
    cases hb : b.get? key with
    | none => exact .none
    | some y =>
      obtain ⟨⟨_, x⟩, hx, rfl, _⟩ := h.exists_right (b.get?_eq_some_iff.mp hb)
      rw [a.get?_eq_some_iff.mpr hx] at ha
      cases ha

theorem get?_eq {a b : Keyed α} (h : ReordersBy (· = ·) a b) (key : String) :
    a.get? key = b.get? key := by
  cases ha : a.get? key with
  | none => rw [eq_none_of_rel (h.get? key) ha]
  | some x =>
    obtain ⟨y, hy, rfl⟩ := exists_of_rel (h.get? key) ha
    rw [hy]

end ReordersBy

end Keyed

/-! ### What holds maps -/

/-- The same column, its options enumerated in another order. -/
def Column.Reorders (c d : Column) : Prop :=
  ∃ options, c.options.ReordersBy (· = ·) options ∧ d = { c with options }

/-- The same table, its columns enumerated in another order. -/
def Table.Reorders (t u : Table) : Prop :=
  ∃ columns, t.columns.ReordersBy Column.Reorders columns ∧ u = { t with columns }

/-- The same tables, enumerated in another order. -/
def Schema.Reorders (s s' : Schema) : Prop := s.tables.ReordersBy Table.Reorders s'.tables

/-- The same key, and the same table up to the order of its maps. -/
abbrev Schema.SameEntry : String × Table → String × Table → Prop := Keyed.SameEntry Table.Reorders

/-- The same sequence, its users enumerated in another order. -/
def Sequence.Reorders (q p : Sequence) : Prop :=
  ∃ users, q.users.ReordersBy (· = ·) users ∧ p = { q with users }

theorem Column.Reorders.refl (c : Column) : c.Reorders c :=
  ⟨c.options, .refl (fun _ => rfl) _, rfl⟩

theorem Table.Reorders.refl (t : Table) : t.Reorders t :=
  ⟨t.columns, .refl Column.Reorders.refl _, rfl⟩

theorem Schema.Reorders.refl (s : Schema) : s.Reorders s := Keyed.ReordersBy.refl Table.Reorders.refl _

theorem Sequence.Reorders.refl (q : Sequence) : q.Reorders q :=
  ⟨q.users, .refl (fun _ => rfl) _, rfl⟩

end SchemaScript
