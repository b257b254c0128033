import SchemaScript.Model.Schema
import SchemaScript.Model.Sequence
import Mathlib.Data.Finset.Card
import Mathlib.Data.List.Forall2
import Mathlib.Data.List.Perm.Subperm

/-! What maps hold.

A map built up from a list holds under each key what came last under it (`Keyed.get?_foldl_insert`), and
it has as many entries as there are different keys. Two maps are the same (`==`) if they hold the same
under every key (`Keyed.beq_iff`), whatever the order in which they list their entries; this sameness,
and that of columns, tables, schemas and sequences, which hold maps, is an equivalence. -/
namespace SchemaScript

variable {α β : Type}

/-! ### The last under a key -/

/-- The last of some items to go by an id. -/
def lastBy (id : α → String) (items : List α) (name : String) : Option α :=
  (items.filter fun a => id a == name).getLast?

section Last
variable (id : α → String) (items : List α) (name : String)

theorem lastBy_append (more : List α) :
    lastBy id (items ++ more) name = (lastBy id more name).or (lastBy id items name) := by
  rw [lastBy, List.filter_append, List.getLast?_append]
  rfl

@[simp] theorem lastBy_singleton (a : α) :
    lastBy id [a] name = if id a = name then some a else none := by
  by_cases h : id a = name <;> simp [lastBy, h]

theorem lastBy_cons (a : α) : lastBy id (a :: items) name =
    (lastBy id items name).or (if id a = name then some a else none) := by
  rw [← List.singleton_append, lastBy_append, lastBy_singleton]

variable {id items name}

/-- What goes by an id last is followed by nothing that does. -/
theorem lastBy_eq_some_iff {a : α} : lastBy id items name = some a ↔
    id a = name ∧ ∃ before after, items = before ++ a :: after ∧ ∀ b ∈ after, id b ≠ name := by
  rw [lastBy, List.getLast?_filter, List.find?_eq_some_iff_append]
  simp only [beq_iff_eq, Bool.not_eq_true', beq_eq_false_iff_ne]
  refine and_congr Iff.rfl ?_
  constructor
  · intro h
    obtain ⟨after, before, hitems, hafter⟩ := h
    refine ⟨before.reverse, after.reverse, ?_, fun b hb => hafter b (List.mem_reverse.mp hb)⟩
    rw [← items.reverse_reverse, hitems]
    simp
  · intro h
    obtain ⟨before, after, rfl, hafter⟩ := h
    exact ⟨after.reverse, before.reverse, by simp, fun b hb => hafter b (List.mem_reverse.mp hb)⟩

theorem lastBy_eq_none_iff : lastBy id items name = none ↔ ∀ a ∈ items, id a ≠ name := by
  simp [lastBy]

/-- Of items that are related one by one, those that go by an id last are related. -/
theorem rel_lastBy {r : α → β → Prop} {id : α → String} {id' : β → String}
    (hid : ∀ a b, r a b → id a = id' b) {as : List α} {bs : List β} (h : List.Forall₂ r as bs)
    (name : String) : Option.Rel r (lastBy id as name) (lastBy id' bs name) := by
  induction h with
  | nil => exact .none
  | @cons a b as bs hab _ ih =>
    rw [lastBy_cons, lastBy_cons, hid a b hab]
    generalize lastBy id as name = last, lastBy id' bs name = last' at ih
    cases ih with
    | some h => exact .some h
    | none =>
      rw [Option.none_or, Option.none_or]
      split
      · exact .some hab
      · exact .none

end Last

namespace Keyed

/-! ### Maps built up from lists -/

section Building
variable (m : Keyed α) (id : β → String) (value : β → α) (items : List β)

/-- Of all that has been put under a key the last counts. -/
theorem get?_foldl_insert (name : String) :
    (items.foldl (fun m b => m.insert (id b) (value b)) m).get? name =
      ((lastBy id items name).map value).or (m.get? name) := by
  induction items generalizing m with
  | nil => rfl
  | cons b items ih =>
    rw [List.foldl_cons, ih, lastBy_cons, get?_insert]
    by_cases h : id b = name
    · rw [if_pos h, if_pos h.symm]
      cases lastBy id items name <;> rfl
    · rw [if_neg h, if_neg (Ne.symm h), Option.or_none]

theorem get?_ofList (l : List (String × α)) (name : String) :
    (ofList l).get? name = (lastBy Prod.fst l name).map Prod.snd := by
  rw [ofList, get?_foldl_insert ∅ Prod.fst Prod.snd, get?_empty, Option.or_none]

end Building

theorem nodup_keys (m : Keyed α) : m.keys.Nodup := m.distinct

theorem length_keys (m : Keyed α) : m.keys.length = m.size := List.length_map _

theorem mem_keys_iff (m : Keyed α) (name : String) : name ∈ m.keys ↔ m.get? name ≠ none := by
  rw [← contains_iff, contains, Option.isSome_iff_ne_none]

/-- A map has one entry for each of its keys. -/
theorem size_eq_card {m : Keyed α} {names : List String} (h : ∀ name, name ∈ m.keys ↔ name ∈ names) :
    m.size = names.toFinset.card := by
  have hkeys : m.keys.toFinset = names.toFinset := by
    ext name
    rw [List.mem_toFinset, List.mem_toFinset, h]
  rw [← hkeys, List.toFinset_card_of_nodup m.nodup_keys, length_keys]

end Keyed

/-! ### Sameness -/

section Sameness
variable [BEq α]

instance equivBEqOption [EquivBEq α] : EquivBEq (Option α) where
  symm {x y} h := by
    cases x <;> cases y <;> simp_all [BEq.symm]
  trans {x y z} h h' := by
    cases x <;> cases y <;> cases z <;> simp_all
    exact BEq.trans h h'

namespace Keyed

variable {a b : Keyed α}

theorem beq_iff_entries : (a == b) = true ↔
    a.size = b.size ∧ ∀ e ∈ a.entries, (some e.2 == b.get? e.1) = true := by
  show sameBy _ a b = true ↔ _
  rw [sameBy, Bool.and_eq_true, beq_iff_eq, List.all_eq_true]
  refine and_congr Iff.rfl (forall₂_congr fun e _ => ?_)
  cases b.get? e.1 <;> simp

theorem isSome_eq_of_beq {x y : Option α} (h : (x == y) = true) : x.isSome = y.isSome := by
  cases x <;> cases y <;> simp_all

/-- **Two maps are the same if they hold the same under each key.** -/
theorem beq_iff : (a == b) = true ↔ ∀ name, (a.get? name == b.get? name) = true := by
  rw [beq_iff_entries]
  constructor
  · intro h name
    obtain ⟨hsize, hentries⟩ := h
    have hsub : a.keys ⊆ b.keys := by
      intro k hk
      obtain ⟨e, he, rfl⟩ := List.mem_map.mp hk
      rw [← contains_iff, contains, ← isSome_eq_of_beq (hentries e he)]
      rfl
    -- keys that are all there and as many are the same keys
    have hperm : a.keys.Perm b.keys :=
      (List.subperm_of_subset a.nodup_keys hsub).perm_of_length_le (by
        rw [length_keys, length_keys, hsize])
    cases ha : a.get? name with
    | some x => exact hentries _ (a.get?_eq_some_iff.mp ha)
    | none =>
      have hb : name ∉ b.keys := by
        rw [← hperm.mem_iff, mem_keys_iff, ha]
        exact fun h => h rfl
      rw [mem_keys_iff, not_not] at hb
      rw [hb]
      rfl
  · intro h
    have hkeys (name : String) : name ∈ a.keys ↔ name ∈ b.keys := by
      rw [← contains_iff, ← contains_iff, contains, contains, isSome_eq_of_beq (h name)]
    have hperm := (List.perm_ext_iff_of_nodup a.nodup_keys b.nodup_keys).mpr hkeys
    refine ⟨by rw [← length_keys, hperm.length_eq, length_keys], fun e he => ?_⟩
    rw [← a.get?_eq_some_iff.mpr he]
    exact h e.1

instance [EquivBEq α] : EquivBEq (Keyed α) where
  rfl := beq_iff.mpr fun _ => BEq.rfl
  symm h := beq_iff.mpr fun name => BEq.symm (beq_iff.mp h name)
  trans h h' := beq_iff.mpr fun name => BEq.trans (beq_iff.mp h name) (beq_iff.mp h' name)

end Keyed

end Sameness

/-- What is compared by the rest and by one part is the same if both are. -/
theorem equivBEq_of_part [BEq α] [BEq β] [EquivBEq β] {γ : Type} {rest : α → γ} {part : α → β}
    (h : ∀ a b, (a == b) = true ↔ rest a = rest b ∧ (part a == part b) = true) : EquivBEq α where
  rfl {a} := (h a a).mpr ⟨rfl, BEq.rfl⟩
  symm {a b} hab := by
    obtain ⟨hrest, hpart⟩ := (h a b).mp hab
    exact (h b a).mpr ⟨hrest.symm, BEq.symm hpart⟩
  trans {a b c} hab hbc := by
    obtain ⟨hrest, hpart⟩ := (h a b).mp hab
    obtain ⟨hrest', hpart'⟩ := (h b c).mp hbc
    exact (h a c).mpr ⟨hrest.trans hrest', BEq.trans hpart hpart'⟩

theorem Column.beq_iff (c d : Column) : (c == d) = true ↔
    { c with options := ∅ } = { d with options := ∅ } ∧ (c.options == d.options) = true := by
  cases c
  cases d
  show instBEqColumn.beq _ _ = true ↔ _
  simp [instBEqColumn.beq, and_assoc]

theorem Table.beq_iff (t u : Table) : (t == u) = true ↔
    { t with columns := ∅ } = { u with columns := ∅ } ∧ (t.columns == u.columns) = true := by
  cases t
  cases u
  show instBEqTable.beq _ _ = true ↔ _
  simp [instBEqTable.beq, and_assoc, and_comm, and_left_comm]

theorem Sequence.beq_iff (q p : Sequence) : (q == p) = true ↔
    { q with users := ∅ } = { p with users := ∅ } ∧ (q.users == p.users) = true := by
  cases q
  cases p
  show instBEqSequence.beq _ _ = true ↔ _
  simp [instBEqSequence.beq, and_assoc]

instance : EquivBEq Column := equivBEq_of_part Column.beq_iff

instance : EquivBEq Table := equivBEq_of_part Table.beq_iff

instance : EquivBEq Sequence := equivBEq_of_part Sequence.beq_iff

theorem Schema.beq_iff {s s' : Schema} :
    (s == s') = true ↔ ∀ id, (s.get? id == s'.get? id) = true := Keyed.beq_iff

instance : EquivBEq Schema where
  rfl := Schema.beq_iff.mpr fun _ => BEq.rfl
  symm h := Schema.beq_iff.mpr fun id => BEq.symm (Schema.beq_iff.mp h id)
  trans h h' := Schema.beq_iff.mpr fun id =>
    BEq.trans (Schema.beq_iff.mp h id) (Schema.beq_iff.mp h' id)

end SchemaScript
