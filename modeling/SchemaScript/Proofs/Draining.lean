import SchemaScript.Proofs.Circles

/-! How long the two loops of the table order run.

The search for circles follows the parents of a table until there is none, or one that it has met
(`Walk`). It never meets more tables than there are, so it ends after at most as many links as the
schema has tables, wherever a circle lies (`walk_ascent_iff`).

The queue loop takes turns until no table waits (`Queue.Drains`). A turn may leave as many tables
waiting as there were; but where chains end, the table furthest up among those waiting is held back by
nothing, so one turn of each table places at least one of them (`exists_placing_turn`). What waits
shrinks with every such round, which bounds the turns (`exists_drains`). With a circle the loop would
not end at all, since a table is only placed on top of a chain that ends (`chainsEnd_of_drains`). -/
namespace SchemaScript.Schema

variable {s : Schema} {e p : String × Table}

/-! ### The walk of one table -/

/-- How the search goes on from a table when the keys in `seen` have been met: the links it follows, the
one that leads back included, and whether it was led back. -/
inductive Walk (s : Schema) : (seen : List String) → Table → (links : Nat) → (circular : Bool) → Prop
  | ended {seen : List String} {t : Table} (h : s.parentOf? t = none) : Walk s seen t 0 false
  | back {seen : List String} {t : Table} {p : String × Table} (h : s.parentOf? t = some p)
      (hseen : p.1 ∈ seen) : Walk s seen t 1 true
  | on {seen : List String} {t : Table} {p : String × Table} {links : Nat} {circular : Bool}
      (h : s.parentOf? t = some p) (hseen : p.1 ∉ seen)
      (rest : Walk s (p.1 :: seen) p.2 links circular) : Walk s seen t (links + 1) circular

section Walk
variable {seen fresh : List String} {t : Table} {links : Nat} {circular : Bool}

theorem walk_of_root (h : s.parentOf? t = none) :
    s.Walk seen t links circular ↔ links = 0 ∧ circular = false := by
  constructor
  · intro hwalk
    cases hwalk with
    | ended _ => exact ⟨rfl, rfl⟩
    | back hp _ => cases h.symm.trans hp
    | on hp _ _ => cases h.symm.trans hp
  · intro hend
    obtain ⟨rfl, rfl⟩ := hend
    exact .ended h

theorem walk_of_seen (h : s.parentOf? t = some p) (hseen : p.1 ∈ seen) :
    s.Walk seen t links circular ↔ links = 1 ∧ circular = true := by
  constructor
  · intro hwalk
    cases hwalk with
    | ended hp => cases h.symm.trans hp
    | back _ _ => exact ⟨rfl, rfl⟩
    | on hp hnew _ =>
      cases h.symm.trans hp
      exact absurd hseen hnew
  · intro hback
    obtain ⟨rfl, rfl⟩ := hback
    exact .back h hseen

theorem walk_of_unseen (h : s.parentOf? t = some p) (hseen : p.1 ∉ seen) :
    s.Walk seen t links circular ↔
      ∃ rest, s.Walk (p.1 :: seen) p.2 rest circular ∧ links = rest + 1 := by
  constructor
  · intro hwalk
    cases hwalk with
    | ended hp => cases h.symm.trans hp
    | back hp hold =>
      cases h.symm.trans hp
      exact absurd hold hseen
    | on hp _ rest =>
      cases h.symm.trans hp
      exact ⟨_, rest, rfl⟩
  · intro hon
    obtain ⟨rest, hrest, rfl⟩ := hon
    exact .on h hseen hrest

/-- Each key of the schema is either fresh or has been met. -/
def Splits (s : Schema) (fresh seen : List String) : Prop :=
  fresh.Nodup ∧ ∀ id ∈ s.ids, id ∈ fresh ↔ id ∉ seen

theorem Splits.erase (h : s.Splits fresh seen) (id : String) :
    s.Splits (fresh.erase id) (id :: seen) := by
  refine ⟨h.1.erase id, fun other hother => ?_⟩
  rw [h.1.mem_erase_iff, h.2 other hother, List.mem_cons, not_or]

/-- The way up is the walk, whichever of the two records of the keys that have been met is kept. -/
theorem walk_climb_iff (h : s.Splits fresh seen) :
    s.Walk seen t links circular ↔
      links = (s.climb fresh t).links ∧ circular = (s.climb fresh t).circular := by
  induction fresh, t using climb.induct s generalizing seen links with
  | case1 fresh t hp =>
    rw [walk_of_root hp, climb_of_root s fresh hp]
    rfl
  | case2 fresh t id up hp hf ih =>
    have hid : id ∈ s.ids := List.mem_map_of_mem (mem_of_parentOf? hp)
    rw [walk_of_unseen hp ((h.2 id hid).mp hf), climb_of_fresh s hp hf]
    simp only [ih (h.erase id), Ascent.links, List.length_cons]
    constructor
    · intro hrest
      obtain ⟨_, ⟨rfl, rfl⟩, rfl⟩ := hrest
      exact ⟨Nat.add_right_comm .., rfl⟩
    · intro hrest
      obtain ⟨rfl, rfl⟩ := hrest
      exact ⟨_, ⟨rfl, rfl⟩, Nat.add_right_comm ..⟩
  | case3 fresh t id up hp hf =>
    have hid : id ∈ s.ids := List.mem_map_of_mem (mem_of_parentOf? hp)
    have hseen : id ∈ seen := by
      by_contra hseen
      exact hf ((h.2 id hid).mpr hseen)
    rw [walk_of_seen hp hseen, climb_of_met s hp hf]
    rfl

end Walk

theorem splits_ascent (s : Schema) (id : String) : s.Splits (s.ids.erase id) [id] := by
  have hnodup : s.ids.Nodup := s.tables.distinct
  refine ⟨hnodup.erase id, fun other hother => ?_⟩
  rw [hnodup.mem_erase_iff, List.mem_singleton, and_iff_left hother]

theorem walk_ascent_iff (s : Schema) (e : String × Table) {links : Nat} {circular : Bool} :
    s.Walk [e.1] e.2 links circular ↔
      links = (s.ascent e).links ∧ circular = (s.ascent e).circular :=
  walk_climb_iff (s.splits_ascent e.1)

/-- All keys but that of the table itself may be met, and then one of them again. -/
theorem links_ascent_le (he : e ∈ s.entries) : (s.ascent e).links ≤ s.size := by
  have hpassed : (s.ascent e).passed.length ≤ (s.ids.erase e.1).length := length_passed_le s _ e.2
  have hid : e.1 ∈ s.ids := List.mem_map_of_mem he
  have hpos := List.length_pos_of_mem hid
  have hsize : s.ids.length = s.size := List.length_map ..
  rw [List.length_erase_of_mem hid] at hpassed
  unfold Ascent.links
  split <;> omega

/-! ### A turn that places a table -/

namespace Queue

variable {q r : Queue} {m n : Nat}

/-- Each table of the schema waits or has been placed. -/
def HoldsAll (s : Schema) (q : Queue) : Prop := (q.waiting ++ q.placed).Perm s.entries

theorem holdsAll_byName (s : Schema) : HoldsAll s ⟨s.byName, []⟩ := by
  unfold HoldsAll
  rw [List.append_nil]
  exact s.perm_byName

theorem HoldsAll.turns (h : HoldsAll s q) (n : Nat) : HoldsAll s (turns s n q) :=
  (perm_turns s n q).trans h

theorem HoldsAll.mem_iff (h : HoldsAll s q) : e ∈ s.entries ↔ e ∈ q.waiting ∨ e ∈ q.placed := by
  rw [← List.Perm.mem_iff h, List.mem_append]

theorem HoldsAll.mem_of_placed (h : HoldsAll s q) : ∀ a ∈ q.placed, a ∈ s.entries :=
  fun _ ha => h.mem_iff.mpr (.inr ha)

theorem holdsBack_of_root (h : s.parentOf? e.2 = none) : q.holdsBack s e.2 = false := by
  rw [holdsBack, h]

/-- Up the chain of a table that waits stands one that need not wait. -/
theorem exists_free (h : HoldsAll s q) (hends : s.ChainEnds e) (he : e ∈ q.waiting) :
    ∃ a ∈ q.waiting, q.holdsBack s a.2 = false := by
  induction hends using ChainEnds.induction with
  | root e hp => exact ⟨e, he, holdsBack_of_root hp⟩
  | link e p hp hends ih =>
    by_cases hfree : q.holdsBack s e.2 = false
    · exact ⟨e, he, hfree⟩
    · have hplaced := (holdsBack_of_link hp h.mem_of_placed).mp (Bool.eq_true_of_not_eq_false hfree)
      exact ih ((h.mem_iff.mp (mem_of_parentOf? hp)).resolve_right hplaced)

/-- Tables that are held back go to the back one after another. -/
theorem turns_held (held rest : List (String × Table)) (h : ∀ a ∈ held, q.holdsBack s a.2 = true) :
    turns s held.length { q with waiting := held ++ rest } = { q with waiting := rest ++ held } := by
  induction held generalizing rest with
  | nil => rw [List.nil_append, List.append_nil]; rfl
  | cons a held ih =>
    have hturn : turn s { q with waiting := a :: (held ++ rest) } =
        { q with waiting := held ++ rest ++ [a] } := turn_of_held rfl (h a (List.mem_cons_self ..))
    rw [List.length_cons, List.cons_append, turns, hturn, List.append_assoc,
      ih _ fun b hb => h b (List.mem_cons_of_mem a hb), List.append_assoc]
    rfl

/-- The next table to be placed: the first that is not held back, once those in front of it have gone
to the back. -/
theorem exists_next (hs : s.ChainsEnd) (h : HoldsAll s q) (hne : q.waiting ≠ []) :
    ∃ held e rest, q.waiting = held ++ e :: rest ∧
      turns s held.length q = { q with waiting := e :: (rest ++ held) } ∧
        turns s (held.length + 1) q = ⟨rest ++ held, q.placed ++ [e]⟩ := by
  obtain ⟨a, ha⟩ := List.exists_mem_of_ne_nil _ hne
  obtain ⟨b, hb, hfree⟩ := exists_free h (hs a (h.mem_iff.mpr (.inl ha))) ha
  obtain ⟨e, he⟩ := Option.isSome_iff_exists.mp
    (List.find?_isSome (p := fun e : String × Table => !q.holdsBack s e.2).mpr ⟨b, hb, by simp [hfree]⟩)
  obtain ⟨he, held, rest, hwaiting, hheld⟩ := List.find?_eq_some_iff_append.mp he
  have hround : turns s held.length q = { q with waiting := e :: (rest ++ held) } := by
    have hturns := turns_held held (e :: rest) (q := q) fun a ha => by simpa using hheld a ha
    rwa [← hwaiting] at hturns
  have hplace : turn s { q with waiting := e :: (rest ++ held) } = ⟨rest ++ held, q.placed ++ [e]⟩ :=
    turn_of_free rfl (Bool.not_eq_true' _ ▸ he)
  exact ⟨held, e, rest, hwaiting, hround, by rw [turns_add, hround, turns, hplace, turns]⟩

/-- **Among as many turns as tables wait, one places a table.** -/
theorem exists_placing_turn (hs : s.ChainsEnd) (h : HoldsAll s q) (hne : q.waiting ≠ []) :
    ∃ i < q.waiting.length, ∃ e, (turns s (i + 1) q).placed = (turns s i q).placed ++ [e] := by
  obtain ⟨held, e, rest, hwaiting, hround, hplace⟩ := exists_next hs h hne
  refine ⟨held.length, by rw [hwaiting]; simp, e, ?_⟩
  rw [hround, hplace]

/-! ### The loop -/

/-- The loop from a queue: the turns it takes until no table waits, and the queue it ends with. -/
inductive Drains (s : Schema) : Queue → (count : Nat) → Queue → Prop
  | empty {q : Queue} (h : q.waiting = []) : Drains s q 0 q
  | pop {q r : Queue} {n : Nat} (h : q.waiting ≠ []) (rest : Drains s (q.turn s) n r) :
    Drains s q (n + 1) r

theorem Drains.unique {r' : Queue} (h : Drains s q m r) (h' : Drains s q n r') : m = n ∧ r = r' := by
  induction h generalizing n with
  | empty hq =>
    cases h' with
    | empty _ => exact ⟨rfl, rfl⟩
    | pop hne _ => exact absurd hq hne
  | pop hne _ ih =>
    cases h' with
    | empty hq => exact absurd hq hne
    | pop _ rest =>
      obtain ⟨rfl, rfl⟩ := ih rest
      exact ⟨rfl, rfl⟩

theorem Drains.eq_turns (h : Drains s q n r) : turns s n q = r ∧ r.waiting = [] := by
  induction h with
  | empty hq => exact ⟨rfl, hq⟩
  | pop _ _ ih => exact ih

/-- Turns after which tables still wait are turns of the loop. -/
theorem Drains.after (h : (turns s m q).waiting ≠ []) (hrest : Drains s (turns s m q) n r) :
    Drains s q (n + m) r := by
  induction m generalizing q with
  | zero => exact hrest
  | succ m ih =>
    refine .pop (fun hq => ?_) (ih h hrest)
    obtain ⟨waiting, placed⟩ := q
    subst hq
    rw [turns_of_empty] at h
    exact h rfl

/-- The turns of the loop, with a round for each table that waits. -/
theorem exists_drains (hs : s.ChainsEnd) (h : HoldsAll s q) (hlen : q.waiting.length = m) :
    ∃ n ≤ turnsFor m, ∃ r, Drains s q n r := by
  induction m generalizing q with
  | zero => exact ⟨0, Nat.zero_le _, q, .empty (List.length_eq_zero_iff.mp hlen)⟩
  | succ m ih =>
    have hne : q.waiting ≠ [] := List.ne_nil_of_length_eq_add_one hlen
    obtain ⟨held, e, rest, hwaiting, hround, hplace⟩ := exists_next hs h hne
    have hplaced : (turns s held.length q).turn s = ⟨rest ++ held, q.placed ++ [e]⟩ := by
      rw [← hplace, turns_add]
      rfl
    rw [hwaiting, List.length_append, List.length_cons] at hlen
    have hall := h.turns (held.length + 1)
    rw [hplace] at hall
    obtain ⟨n, hn, r, hr⟩ := ih hall (by rw [List.length_append]; omega)
    have hwait : (turns s held.length q).waiting ≠ [] := by rw [hround]; exact List.cons_ne_nil _ _
    refine ⟨n + 1 + held.length, ?_, r, .after hwait (.pop hwait (hplaced ▸ hr))⟩
    rw [turnsFor_succ]
    omega

/-! ### A loop that ends -/

/-- A table is placed only if its chain ends where those of the placed tables do. -/
theorem chainEnds_of_turn (hall : HoldsAll s q) (h : ∀ a ∈ q.placed, s.ChainEnds a) :
    ∀ a ∈ (q.turn s).placed, s.ChainEnds a := by
  obtain ⟨waiting, placed⟩ := q
  cases waiting with
  | nil => exact h
  | cons e rest =>
    cases hback : holdsBack s ⟨e :: rest, placed⟩ e.2 with
    | true =>
      rw [turn_of_held rfl hback]
      exact h
    | false =>
      rw [turn_of_free rfl hback]
      intro a ha
      rcases List.mem_append.mp ha with ha | ha
      · exact h a ha
      · rw [List.mem_singleton.mp ha]
        cases hp : s.parentOf? e.2 with
        | none => exact .of_root hp
        | some p =>
          refine (chainEnds_iff_of_link hp).mpr (h p ?_)
          by_contra hplaced
          rw [(holdsBack_of_link hp hall.mem_of_placed).mpr hplaced] at hback
          cases hback

theorem Drains.chainEnds (h : Drains s q n r) (hall : HoldsAll s q)
    (hplaced : ∀ a ∈ q.placed, s.ChainEnds a) : s.ChainsEnd := by
  induction h with
  | empty hq =>
    intro e he
    have hmem := hall.mem_iff.mp he
    rw [hq] at hmem
    exact hplaced e (hmem.resolve_left List.not_mem_nil)
  | pop _ _ ih => exact ih (hall.turns 1) (chainEnds_of_turn hall hplaced)

end Queue

/-- Where the loop ends, there is no circle. -/
theorem chainsEnd_of_drains {n : Nat} {r : Queue} (h : Queue.Drains s ⟨s.byName, []⟩ n r) :
    s.ChainsEnd :=
  h.chainEnds (Queue.holdsAll_byName s) fun _ ha => absurd ha List.not_mem_nil

/-- The loop and the turns that are always enough end in the same order. -/
theorem exists_drains_placedOrder (hs : s.ChainsEnd) :
    ∃ n ≤ turnsFor s.size, Queue.Drains s ⟨s.byName, []⟩ n ⟨[], s.placedOrder⟩ := by
  obtain ⟨n, hn, ⟨waiting, placed⟩, hr⟩ :=
    Queue.exists_drains hs (Queue.holdsAll_byName s) s.length_byName
  obtain ⟨hturns, hwaiting⟩ := hr.eq_turns
  subst hwaiting
  have horder : s.placedOrder = placed := by
    rw [placedOrder, ← Nat.add_sub_of_le hn, Queue.turns_add, hturns, turns_of_empty]
  exact ⟨n, hn, horder ▸ hr⟩

/-- **Both loops of the table order end.** The walk from each table takes at most as many links as there
are tables. The queue is drained exactly if no walk is led back; then one of as many turns as tables
wait places a table, and for `n` tables at most `n * (n + 1) / 2` turns are taken. -/
theorem ordering_loops_end (s : Schema) :
    (∀ e ∈ s.entries, (s.ascent e).links ≤ s.size ∧ ∀ links circular,
      s.Walk [e.1] e.2 links circular ↔
        links = (s.ascent e).links ∧ circular = (s.ascent e).circular) ∧
      ((∃ n r, Queue.Drains s ⟨s.byName, []⟩ n r) ↔ s.firstCircular? = none) ∧
        (s.firstCircular? = none →
          (∀ n, (Queue.turns s n ⟨s.byName, []⟩).waiting ≠ [] →
            ∃ i < (Queue.turns s n ⟨s.byName, []⟩).waiting.length, ∃ e,
              (Queue.turns s (n + i + 1) ⟨s.byName, []⟩).placed =
                (Queue.turns s (n + i) ⟨s.byName, []⟩).placed ++ [e]) ∧
            ∃ n ≤ s.size * (s.size + 1) / 2, ∀ m r,
              Queue.Drains s ⟨s.byName, []⟩ m r ↔ m = n ∧ r = ⟨[], s.placedOrder⟩) := by
  rw [firstCircular?_eq_none_iff]
  refine ⟨fun e he => ⟨links_ascent_le he, fun _ _ => s.walk_ascent_iff e⟩, ⟨?_, ?_⟩, ?_⟩
  · intro h
    obtain ⟨_, _, hr⟩ := h
    exact chainsEnd_of_drains hr
  · intro hs
    obtain ⟨n, _, hr⟩ := exists_drains_placedOrder hs
    exact ⟨n, _, hr⟩
  · intro hs
    refine ⟨fun n hne => ?_, ?_⟩
    · have hturn := Queue.exists_placing_turn hs ((Queue.holdsAll_byName s).turns n) hne
      simpa only [← Queue.turns_add, Nat.add_assoc] using hturn
    · obtain ⟨n, hn, hr⟩ := exists_drains_placedOrder hs
      refine ⟨n, hn, fun m r => ⟨fun h => h.unique hr, fun h => ?_⟩⟩
      rw [h.1, h.2]
      exact hr

/-- From beside the circle the walk follows as many links as there are tables. -/
theorem ascent_hung : hanging.ascent hung = ⟨["t2"], true⟩ := by
  have hfirst : hanging.parentOf? hung.2 = some ("t2", looped.2) := rfl
  have hback : hanging.parentOf? looped.2 = some ("t2", looped.2) := rfl
  have hfresh : hanging.ids.erase hung.1 = ["t2"] := by decide
  rw [ascent, hfresh, climb_of_fresh _ hfirst (by decide), climb_of_met _ hback (by decide)]

theorem ordering_loops_end_hanging :
    hung ∈ hanging.entries ∧ hanging.Walk [hung.1] hung.2 hanging.size true ∧
      nested.firstCircular? = none ∧
        ∃ n ≤ 15, Queue.Drains nested ⟨nested.byName, []⟩ n ⟨[], nested.placedOrder⟩ := by
  have hmem : hung ∈ hanging.entries := List.mem_cons_self ..
  have hwalk := ((ordering_loops_end hanging).1 hung hmem).2 hanging.size true
  have hnested := firstCircular?_eq_none_iff.mpr chainsEnd_nested
  obtain ⟨n, hle, hdrains⟩ := ((ordering_loops_end nested).2.2 hnested).2
  rw [ascent_hung] at hwalk
  exact ⟨hmem, hwalk.mpr ⟨rfl, rfl⟩, hnested, n, hle, (hdrains _ _).mpr ⟨rfl, rfl⟩⟩

end SchemaScript.Schema
