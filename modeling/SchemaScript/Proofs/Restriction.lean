import SchemaScript.Proofs.Embedding

/-! Part of a schema.

If a set of keys holds the parents of its tables, as far as the schema has them, then the links among
its tables do not leave it, and the part of the schema under these keys is embedded in the whole. So
its tables come in the order in which they come in the whole schema (`restriction_keeps_order`). Such
a set is the family of a root, and the set of all old keys where a table has been added that no other
is interleaved in. -/
namespace SchemaScript

/-- The entries under some keys. -/
def Keyed.restrict {α : Type} (m : Keyed α) (keep : String → Bool) : Keyed α where
  entries := m.entries.filter fun e => keep e.1
  distinct := m.distinct.sublist (List.filter_sublist.map _)

namespace Schema

/-- The tables under some keys. -/
def restrict (s : Schema) (keep : String → Bool) : Schema := { tables := s.tables.restrict keep }

/-- The schema with one more table, or another one, under a key. -/
def adding (s : Schema) (key : String) (t : Table) : Schema := { tables := s.tables.insert key t }

/-- Whether a set of keys holds the parents of its tables, as far as they are there. -/
def AncestorClosed (s : Schema) (keep : String → Bool) : Prop :=
  ∀ e ∈ s.entries, keep e.1 = true → ∀ id ∈ e.2.parentId?, s.contains id = true → keep id = true

instance (s : Schema) (keep : String → Bool) : Decidable (s.AncestorClosed keep) :=
  inferInstanceAs (Decidable (∀ e ∈ s.entries, keep e.1 = true →
    ∀ id ∈ e.2.parentId?, s.contains id = true → keep id = true))

/-- Whether a set of keys is that of the tables whose chains lead to a root. -/
structure IsFamily (s : Schema) (root : String × Table) (keep : String → Bool) : Prop where
  isRoot : s.parentOf? root.2 = none
  keep_iff : ∀ e ∈ s.entries, keep e.1 = true ↔ ∃ n, s.onChain? e n = some root

variable {s : Schema} {keep : String → Bool} {e : String × Table} {key : String} {t : Table}

/-! ### A part inside the whole -/

theorem mem_restrict : e ∈ (s.restrict keep).entries ↔ e ∈ s.entries ∧ keep e.1 = true :=
  List.mem_filter

theorem embeds_restrict (hkeep : s.AncestorClosed keep) : Embeds id (s.restrict keep) s where
  mem e he := (mem_restrict.mp he).1
  parent e he := by
    rw [Option.map_id]
    obtain ⟨he, hkept⟩ := mem_restrict.mp he
    refine Option.ext fun p => ?_
    simp only [id, parentOf?_eq_some_iff, mem_restrict]
    refine and_congr_right fun hid => (and_iff_left_of_imp fun hp => ?_).symm
    exact hkeep e he hkept p.1 hid (s.contains_iff p.1 |>.mpr (List.mem_map_of_mem hp))
  names _ _ _ _ := rfl

/-- The keys of a part come in the order of the whole. -/
theorem idsInOrder_restrict (hs : s.ChainsEnd) (hkeep : s.AncestorClosed keep) :
    (s.restrict keep).idsInOrder = .ok ((s.placedOrder.map Prod.fst).filter keep) := by
  have hembeds := embeds_restrict hkeep
  have horder := hembeds.map_placedOrder hs (fun e => keep e.1) (by rw [List.map_id]; rfl)
  rw [List.map_id] at horder
  refine idsInOrder_eq_ok_iff.mpr ⟨hembeds.chainsEnd hs, ?_⟩
  rw [horder, List.filter_map]
  rfl

/-! ### Families -/

/-- A family holds the parents of its tables, since every chain in it leads to the root. -/
theorem IsFamily.ancestorClosed {root : String × Table} (h : s.IsFamily root keep) :
    s.AncestorClosed keep := by
  intro e he hkept id hid hthere
  obtain ⟨p, hp, rfl⟩ := List.mem_map.mp (s.contains_iff id |>.mp hthere)
  have hlink : s.parentOf? e.2 = some p := parentOf?_eq_some_iff.mpr ⟨hid, hp⟩
  obtain ⟨n, hn⟩ := (h.keep_iff e he).mp hkept
  refine (h.keep_iff p hp).mpr ?_
  cases n with
  | zero =>
    cases hn
    cases h.isRoot.symm.trans hlink
  | succ n => exact ⟨n, by rw [← onChain?_of_link hlink, hn]⟩

/-! ### One more table -/

theorem entries_adding (hnew : s.contains key = false) (t : Table) :
    (s.adding key t).entries = s.entries ++ [(key, t)] := by
  refine Keyed.put_of_not_mem t fun hmem => ?_
  rw [s.contains_iff key |>.mpr hmem] at hnew
  cases hnew

theorem restrict_adding (hnew : s.contains key = false) (t : Table) :
    (s.adding key t).restrict (· != key) = s := by
  have hold : ∀ e ∈ s.entries, (e.1 != key) = true := by
    intro e he
    refine bne_iff_ne.mpr fun hkey => ?_
    rw [s.contains_iff key |>.mpr (hkey ▸ List.mem_map_of_mem he)] at hnew
    cases hnew
  have hentries : ((s.adding key t).restrict (· != key)).entries = s.entries := by
    show (s.adding key t).entries.filter _ = _
    rw [entries_adding hnew, List.filter_append, List.filter_eq_self.mpr hold]
    simp
  obtain ⟨⟨entries, _⟩⟩ := s
  unfold restrict Keyed.restrict
  congr

/-- Where no table is interleaved in the one that is added, the old tables keep to themselves. -/
theorem ancestorClosed_adding (hnew : s.contains key = false)
    (hleaf : ∀ e ∈ s.entries, e.2.parentId? ≠ some key) (t : Table) :
    (s.adding key t).AncestorClosed (· != key) := by
  intro e he hold id hid _
  rw [entries_adding hnew, List.mem_append, List.mem_singleton] at he
  refine bne_iff_ne.mpr fun heq => ?_
  rcases he with he | rfl
  · exact hleaf e he (heq ▸ hid)
  · simp at hold

theorem chainsEnd_adding (hs : s.ChainsEnd) (hnew : s.contains key = false)
    (hleaf : ∀ e ∈ s.entries, e.2.parentId? ≠ some key) (hself : t.parentId? ≠ some key) :
    (s.adding key t).ChainsEnd := by
  have hembeds := embeds_restrict (ancestorClosed_adding hnew hleaf t)
  rw [restrict_adding hnew] at hembeds
  have hold : ∀ e ∈ s.entries, (s.adding key t).ChainEnds e := fun e he =>
    (hembeds.chainEnds_image_iff he).mpr (hs e he)
  intro e he
  rw [entries_adding hnew, List.mem_append, List.mem_singleton] at he
  rcases he with he | rfl
  · exact hold e he
  · cases hp : (s.adding key t).parentOf? t with
    | none => exact .of_root hp
    | some p =>
      obtain ⟨hid, hmem⟩ := parentOf?_eq_some_iff.mp hp
      rw [entries_adding hnew, List.mem_append, List.mem_singleton] at hmem
      rcases hmem with hmem | rfl
      · exact (chainEnds_iff_of_link hp).mpr (hold p hmem)
      · exact absurd hid hself

/-! ### The order of a part -/

/-- **Part of a schema is put in the order of the whole schema.** The part is the tables under a set of
keys that holds the parents of its tables. Such a part is each family by itself, so families do not
mix up each other's order; and a table that no other is interleaved in can be added without changing
the order of those that are there. -/
theorem restriction_keeps_order (s : Schema) (hs : s.ChainsEnd) :
    ∃ ids, s.idsInOrder = .ok ids ∧
      (∀ keep, s.AncestorClosed keep → (s.restrict keep).idsInOrder = .ok (ids.filter keep)) ∧
      (∀ root keep, s.IsFamily root keep →
        (s.restrict keep).idsInOrder = .ok (ids.filter keep)) ∧
      ∀ key t, s.contains key = false → (∀ e ∈ s.entries, e.2.parentId? ≠ some key) →
        t.parentId? ≠ some key →
          ∃ more, (s.adding key t).idsInOrder = .ok more ∧ more.filter (· != key) = ids := by
  refine ⟨_, idsInOrder_eq_ok_iff.mpr ⟨hs, rfl⟩, fun keep hkeep => idsInOrder_restrict hs hkeep,
    fun root keep hfamily => idsInOrder_restrict hs hfamily.ancestorClosed, ?_⟩
  intro key t hnew hleaf hself
  have hs' := chainsEnd_adding hs hnew hleaf hself
  refine ⟨_, idsInOrder_eq_ok_iff.mpr ⟨hs', rfl⟩, ?_⟩
  have hold := idsInOrder_restrict hs' (ancestorClosed_adding hnew hleaf t)
  rw [restrict_adding hnew, idsInOrder_eq_ok_iff] at hold
  exact hold.2

theorem restriction_keeps_order_nested :
    nested.ChainsEnd ∧ nested.AncestorClosed ["t2", "t3", "t5"].contains ∧
      ∃ ids, nested.idsInOrder = .ok ids ∧
        (nested.restrict ["t2", "t3", "t5"].contains).idsInOrder =
          .ok (ids.filter ["t2", "t3", "t5"].contains) := by
  have hclosed : nested.AncestorClosed ["t2", "t3", "t5"].contains := by decide
  obtain ⟨ids, hids, hrestrict, _⟩ := restriction_keeps_order nested chainsEnd_nested
  exact ⟨chainsEnd_nested, hclosed, ids, hids, hrestrict _ hclosed⟩

end Schema

end SchemaScript
