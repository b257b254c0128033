import SchemaScript.Proofs.Rounds

/-! The order of tables.

A schema can be put in order exactly if all chains end (`inOrder_eq_ok_iff`). The order then holds
every key once and every ancestor before what stands on it (`idsInOrder_ancestors_first`), and it
has a closed form that does not speak of the queue (`idsInOrder_by_deferrals`). -/
namespace SchemaScript

/-! ### Positions in a list with a rule for what may precede what -/

section Positions
variable {α : Type} {r : α → α → Prop} {l : List α} {a b : α} {i j : Nat}

theorem rel_of_pairwise (h : l.Pairwise r) (hi : l[i]? = some a) (hj : l[j]? = some b)
    (hij : i < j) : r a b := by
  obtain ⟨hil, rfl⟩ := List.getElem?_eq_some_iff.mp hi
  obtain ⟨hjl, rfl⟩ := List.getElem?_eq_some_iff.mp hj
  exact List.pairwise_iff_getElem.mp h i j hil hjl hij

/-- What may not follow something else comes before it. -/
theorem lt_of_pairwise (h : l.Pairwise r) (hi : l[i]? = some a) (hj : l[j]? = some b)
    (hne : a ≠ b) (hba : ¬r b a) : i < j := by
  by_contra hij
  rcases Nat.lt_or_eq_of_le (Nat.le_of_not_lt hij) with hlt | heq
  · exact hba (rel_of_pairwise h hj hi hlt)
  · subst heq
    exact hne (Option.some.inj (hi.symm.trans hj))

/-- What may not precede itself stands in one place. -/
theorem eq_of_pairwise (h : l.Pairwise r) (hi : l[i]? = some a) (hj : l[j]? = some a)
    (haa : ¬r a a) : i = j := by
  rcases Nat.lt_trichotomy i j with hlt | heq | hlt
  · exact absurd (rel_of_pairwise h hi hj hlt) haa
  · exact heq
  · exact absurd (rel_of_pairwise h hj hi hlt) haa

end Positions

namespace Schema

variable {s : Schema} {a b e p : String × Table}

/-! ### Success -/

theorem firstCircular?_eq_none_iff : s.firstCircular? = none ↔ s.ChainsEnd := by
  simp only [firstCircular?, List.find?_eq_none, mem_byName, Bool.not_eq_true]
  exact forall₂_congr fun e he => circular_ascent_iff he

/-- The tables can be put in order exactly if every chain ends; the queue decides how. -/
theorem inOrder_eq_ok_iff {order : List (String × Table)} :
    s.inOrder = .ok order ↔ s.ChainsEnd ∧ order = s.placedOrder := by
  rw [← firstCircular?_eq_none_iff, inOrder]
  cases s.firstCircular? with
  | none => simp [eq_comm]
  | some e => simp

theorem idsInOrder_eq_ok_iff {ids : List String} :
    s.idsInOrder = .ok ids ↔ s.ChainsEnd ∧ ids = s.placedOrder.map Prod.fst := by
  unfold idsInOrder
  constructor
  · intro h
    cases ho : s.inOrder with
    | error f =>
      rw [ho] at h
      cases h
    | ok order =>
      obtain ⟨hs, rfl⟩ := inOrder_eq_ok_iff.mp ho
      rw [ho] at h
      cases h
      exact ⟨hs, rfl⟩
  · intro h
    obtain ⟨hs, rfl⟩ := h
    rw [inOrder_eq_ok_iff.mpr ⟨hs, rfl⟩]
    rfl

/-! ### Positions of tables -/

theorem mem_placedOrder (hs : s.ChainsEnd) : e ∈ s.placedOrder ↔ e ∈ s.entries :=
  (placedOrder_spec hs).1.mem_iff

theorem perm_ids_placedOrder (hs : s.ChainsEnd) : (s.placedOrder.map Prod.fst).Perm s.ids :=
  (placedOrder_spec hs).1.map Prod.fst

theorem nodup_ids_placedOrder (hs : s.ChainsEnd) : (s.placedOrder.map Prod.fst).Nodup :=
  (perm_ids_placedOrder hs).nodup_iff.mpr s.tables.distinct

/-- Along the order the rank grows. -/
theorem pairwise_rank_placedOrder (hs : s.ChainsEnd) :
    s.placedOrder.Pairwise fun a b => s.rank a < s.rank b := by
  have hne : s.placedOrder.Pairwise fun a b => a.1 ≠ b.1 :=
    List.pairwise_map.mp (nodup_ids_placedOrder hs)
  refine ((placedOrder_spec hs).2.and hne).imp_of_mem ?_
  intro a b ha hb hab
  refine lt_of_le_of_ne ((writtenBefore_iff a b).mp hab.1) fun hrank => hab.2 ?_
  rw [eq_of_rank_eq ((mem_placedOrder hs).mp ha) ((mem_placedOrder hs).mp hb) hrank]

/-- The position of a key is that of its entry. -/
theorem getElem?_idxOf (hs : s.ChainsEnd) (he : e ∈ s.entries) :
    s.placedOrder[(s.placedOrder.map Prod.fst).idxOf e.1]? = some e := by
  obtain ⟨i, hi, rfl⟩ := List.mem_iff_getElem.mp ((mem_placedOrder hs).mpr he)
  have hidx := (nodup_ids_placedOrder hs).idxOf_getElem i (by simpa using hi)
  rw [List.getElem_map] at hidx
  rw [hidx]
  exact List.getElem?_eq_getElem hi

theorem idxOf_lt_of_rank_lt (hs : s.ChainsEnd) (ha : a ∈ s.entries) (hb : b ∈ s.entries)
    (h : s.rank a < s.rank b) :
    (s.placedOrder.map Prod.fst).idxOf a.1 < (s.placedOrder.map Prod.fst).idxOf b.1 := by
  refine lt_of_pairwise (pairwise_rank_placedOrder hs) (getElem?_idxOf hs ha) (getElem?_idxOf hs hb)
    ?_ (not_lt_of_gt h)
  intro hab
  rw [hab] at h
  exact lt_irrefl _ h

/-! ### Ancestors first -/

/-- Five tables: two of them wait for a parent that is later by name, one of these for a parent that
has to wait itself, and one names a parent that is not there. -/
def nested : Schema :=
  ofTables [(Table.named "t1" "A").interleavedIn { id := "t2" },
    (Table.named "t2" "B").interleavedIn { id := "t3" }, Table.named "t3" "C",
    (Table.named "t4" "D").interleavedIn { id := "t1" },
    (Table.named "t5" "E").interleavedIn { id := "gone" }]

theorem chainsEnd_nested : nested.ChainsEnd := by
  have hall : ∀ e ∈ nested.entries, nested.onChain? e 4 = none := by decide
  exact fun e he => ⟨4, hall e he⟩

/-- **Putting tables in order succeeds exactly if every chain is finite, and then lists each key of
the schema once, behind all ancestors of its table.** -/
theorem idsInOrder_ancestors_first (s : Schema) :
    ((∃ ids, s.idsInOrder = .ok ids) ↔ ∀ e ∈ s.entries, s.ChainEnds e) ∧
      ∀ ids, s.idsInOrder = .ok ids →
        ids.Nodup ∧ (∀ id, id ∈ ids ↔ s.contains id = true) ∧
          ∀ e ∈ s.entries, ∀ a, s.IsAncestor a e → ids.idxOf a.1 < ids.idxOf e.1 := by
  simp only [idsInOrder_eq_ok_iff, exists_and_left, exists_eq, and_true]
  refine ⟨Iff.rfl, ?_⟩
  intro ids h
  obtain ⟨hs, rfl⟩ := h
  refine ⟨nodup_ids_placedOrder hs, fun id => ?_, fun e he a ha => ?_⟩
  · rw [s.contains_iff]
    exact (perm_ids_placedOrder hs).mem_iff
  · obtain ⟨hmem, hrank⟩ := rank_lt_of_isAncestor he ha (hs e he)
    exact idxOf_lt_of_rank_lt hs hmem he hrank

theorem idsInOrder_ancestors_first_nested :
    nested.idsInOrder = .ok ["t3", "t5", "t2", "t1", "t4"] ∧
      ["t3", "t5", "t2", "t1", "t4"].Nodup ∧
        (∀ id, id ∈ ["t3", "t5", "t2", "t1", "t4"] ↔ nested.contains id = true) ∧
          ∀ e ∈ nested.entries, ∀ a, nested.IsAncestor a e →
            ["t3", "t5", "t2", "t1", "t4"].idxOf a.1 < ["t3", "t5", "t2", "t1", "t4"].idxOf e.1 := by
  have hname : nested.byName = nested.entries := List.mergeSort_of_pairwise (by decide)
  have h : nested.idsInOrder = .ok ["t3", "t5", "t2", "t1", "t4"] := by
    refine idsInOrder_eq_ok_iff.mpr ⟨chainsEnd_nested, ?_⟩
    rw [placedOrder, hname]
    decide
  exact ⟨h, (idsInOrder_ancestors_first nested).2 _ h⟩

/-! ### The closed form -/

theorem deferrals_of_roots (hroots : ∀ e ∈ s.entries, s.parentOf? e.2 = none) :
    s.ChainsEnd ∧ s.byName.Pairwise fun a b => s.writtenBefore a b = true := by
  refine ⟨fun e he => .of_root (hroots e he), s.pairwise_byName.imp_of_mem fun {a b} ha hb hab => ?_⟩
  have hzero : ∀ e ∈ s.byName, s.deferrals e = 0 := fun e he =>
    deferrals_of_root (mem_byName.mp he) (hroots e (mem_byName.mp he))
  simp [writtenBefore, hzero a ha, hzero b hb, hab]

/-- **The order of a schema without circles is the order by deferrals, then by name, then by key.**
Without interleaving that is the order of names; with it, tables of more deferrals come later, and
tables of as many deferrals by name. -/
theorem idsInOrder_by_deferrals (s : Schema) (hs : s.ChainsEnd) :
    s.idsInOrder = .ok ((s.entries.mergeSort s.writtenBefore).map Prod.fst) ∧
      ((∀ e ∈ s.entries, s.parentOf? e.2 = none) → s.idsInOrder = .ok (s.byName.map Prod.fst)) ∧
        ∀ ids, s.idsInOrder = .ok ids → ∀ a ∈ s.entries, ∀ b ∈ s.entries,
          (s.deferrals a < s.deferrals b ∨
            s.deferrals a = s.deferrals b ∧ a.2.name < b.2.name) →
          ids.idxOf a.1 < ids.idxOf b.1 := by
  simp only [idsInOrder_eq_ok_iff, hs, true_and]
  refine ⟨by rw [placedOrder_eq hs], fun hroots => ?_, ?_⟩
  · rw [placedOrder_eq hs, ← eq_mergeSort_writtenBefore s.perm_byName (deferrals_of_roots hroots).2]
  · intro ids hids a ha b hb h
    subst hids
    refine idxOf_lt_of_rank_lt hs ha hb ?_
    rw [rank, rank, Prod.Lex.toLex_lt_toLex]
    rcases h with h | ⟨heq, hname⟩
    · exact .inl h
    · exact .inr ⟨heq, Prod.Lex.toLex_lt_toLex.mpr (.inl hname)⟩

theorem idsInOrder_by_deferrals_nested :
    nested.ChainsEnd ∧ nested.entries.map nested.deferrals = [2, 1, 0, 2, 0] ∧
      nested.idsInOrder = .ok ((nested.entries.mergeSort nested.writtenBefore).map Prod.fst) :=
  ⟨chainsEnd_nested, by decide, (idsInOrder_by_deferrals nested chainsEnd_nested).1⟩

end Schema

end SchemaScript
