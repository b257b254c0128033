import SchemaScript.Proofs.TableOrder

/-! One schema inside another.

A map from the entries of a schema to entries of another embeds the one in the other if it takes
parents to parents, gives no parent to an entry without one, and leaves the order of names as it is
(`Schema.Embeds`). That is said of single links; chains, deferrals and the order of writing follow.
The tables then come in the order in which their images come among all tables of the other schema
(`Embeds.map_placedOrder`). -/
namespace SchemaScript.Schema

variable {s s' : Schema} {f : String × Table → String × Table} {a b e : String × Table}

structure Embeds (f : String × Table → String × Table) (s s' : Schema) : Prop where
  mem : ∀ e ∈ s.entries, f e ∈ s'.entries
  parent : ∀ e ∈ s.entries, s'.parentOf? (f e).2 = (s.parentOf? e.2).map f
  names : ∀ a ∈ s.entries, ∀ b ∈ s.entries, before (f a) (f b) = before a b

/-- Chains do not leave the schema. -/
theorem mem_of_onChain? (he : e ∈ s.entries) {n : Nat} (h : s.onChain? e n = some a) :
    a ∈ s.entries := by
  cases n with
  | zero =>
    cases h
    exact he
  | succ n =>
    obtain ⟨_, _, hlink⟩ := Option.bind_eq_some_iff.mp h
    exact mem_of_parentOf? hlink

namespace Embeds

/-! ### Chains -/

theorem onChain?_image (h : Embeds f s s') (he : e ∈ s.entries) (n : Nat) :
    s'.onChain? (f e) n = (s.onChain? e n).map f := by
  induction n with
  | zero => rfl
  | succ n ih =>
    rw [onChain?, ih, onChain?]
    cases ha : s.onChain? e n with
    | none => rfl
    | some a => exact h.parent a (mem_of_onChain? he ha)

theorem chainEnds_image_iff (h : Embeds f s s') (he : e ∈ s.entries) :
    s'.ChainEnds (f e) ↔ s.ChainEnds e := by
  refine exists_congr fun n => ?_
  rw [h.onChain?_image he, Option.map_eq_none_iff]

theorem chainsEnd (h : Embeds f s s') (hs' : s'.ChainsEnd) : s.ChainsEnd := by
  intro e he
  exact (h.chainEnds_image_iff he).mp (hs' _ (h.mem e he))

/-! ### The order of writing -/

theorem isLateLink_image (h : Embeds f s s') (he : e ∈ s.entries) (n : Nat) :
    s'.isLateLink (f e) n = s.isLateLink e n := by
  unfold isLateLink
  rw [h.onChain?_image he, h.onChain?_image he]
  cases hchild : s.onChain? e n with
  | none => rfl
  | some child =>
    cases hparent : s.onChain? e (n + 1) with
    | none => rfl
    | some parent =>
      exact congrArg (! ·) (h.names _ (mem_of_onChain? he hparent) _ (mem_of_onChain? he hchild))

/-- Deferrals are counted along the chain, which is the same on both sides. -/
theorem deferrals_image (h : Embeds f s s') (he : e ∈ s.entries) (hends : s.ChainEnds e) :
    s'.deferrals (f e) = s.deferrals e := by
  obtain ⟨n, hn⟩ := hends
  have hn' : s'.onChain? (f e) n = none := by rw [h.onChain?_image he, hn, Option.map_none]
  rw [deferrals_eq he hn, deferrals_eq (h.mem e he) hn', funext (h.isLateLink_image he)]

theorem writtenBefore_image (h : Embeds f s s') (hs : s.ChainsEnd) (ha : a ∈ s.entries)
    (hb : b ∈ s.entries) : s'.writtenBefore (f a) (f b) = s.writtenBefore a b := by
  unfold writtenBefore
  rw [h.deferrals_image ha (hs a ha), h.deferrals_image hb (hs b hb), h.names a ha b hb]

/-- **Embedded tables come in the order in which they come among all tables**, where `inside` tells
them from the others. -/
theorem map_placedOrder (h : Embeds f s s') (hs' : s'.ChainsEnd)
    (inside : String × Table → Bool)
    (hinside : (s.entries.map f).Perm (s'.entries.filter inside)) :
    s.placedOrder.map f = s'.placedOrder.filter inside := by
  have hs := h.chainsEnd hs'
  obtain ⟨hperm, hsorted⟩ := placedOrder_spec hs
  obtain ⟨hperm', hsorted'⟩ := placedOrder_spec hs'
  have hplace : ∀ a ∈ s'.entries.filter inside, ∀ b ∈ s'.entries.filter inside,
      s'.rank a = s'.rank b → a = b := fun a ha b hb =>
    eq_of_rank_eq (List.mem_of_mem_filter ha) (List.mem_of_mem_filter hb)
  have hleft : (s.placedOrder.map f).Pairwise fun a b => s'.writtenBefore a b = true := by
    rw [List.pairwise_map]
    refine hsorted.imp_of_mem fun {a b} ha hb hab => ?_
    rw [h.writtenBefore_image hs (hperm.mem_iff.mp ha) (hperm.mem_iff.mp hb), hab]
  -- Both lists hold the images and are sorted by rank, and only one list is.
  rw [eq_mergeSort_of_place writtenBefore_iff hplace ((hperm.map f).trans hinside) hleft,
    eq_mergeSort_of_place writtenBefore_iff hplace (hperm'.filter inside) (hsorted'.filter inside)]

/-! ### Schemas with nothing else in them -/

variable (h : Embeds f s s') (honto : (s.entries.map f).Perm s'.entries)

include h honto

theorem byName_image : s'.byName = s.byName.map f := by
  have hperm := mergeSort_eq_of_perm before_iff (fun _ ha _ hb => eq_of_place_eq ha hb) honto
  rw [byName, ← hperm, byName]
  exact (List.map_mergeSort fun a ha b hb => (h.names a ha b hb).symm).symm

theorem firstCircular?_image : s'.firstCircular? = s.firstCircular?.map f := by
  have hcircular (e) (he : e ∈ s.byName) : (s'.ascent (f e)).circular = (s.ascent e).circular := by
    have he := mem_byName.mp he
    have hiff := (circular_ascent_iff (h.mem e he)).trans
      ((h.chainEnds_image_iff he).trans (circular_ascent_iff he).symm)
    rw [← Bool.not_inj_iff, Bool.eq_iff_iff]
    simpa using hiff
  rw [firstCircular?, h.byName_image honto, List.find?_map, firstCircular?, ← List.head?_filter,
    ← List.head?_filter]
  exact congrArg (fun l => Option.map f (List.head? l)) (List.filter_congr hcircular)

/-- **The tables come in the same order, or the image of the first circular one is reported.** -/
theorem inOrder_image (hname : ∀ e ∈ s.entries, (f e).2.name = e.2.name) :
    s'.inOrder = s.inOrder.map (List.map f) := by
  unfold inOrder
  rw [h.firstCircular?_image honto]
  cases hfirst : s.firstCircular? with
  | some e =>
    have he := mem_byName.mp (List.mem_of_find?_eq_some hfirst)
    exact congrArg (Except.error ∘ Fault.interleaveCycle) (hname e he)
  | none =>
    have hends : s'.ChainsEnd := by
      rw [← firstCircular?_eq_none_iff, h.firstCircular?_image honto, hfirst, Option.map_none]
    have hall : (s.entries.map f).Perm (s'.entries.filter fun _ => true) := by
      rwa [List.filter_true]
    have horder := h.map_placedOrder hends (fun _ => true) hall
    rw [List.filter_true] at horder
    exact congrArg Except.ok horder.symm

end Embeds

end SchemaScript.Schema
