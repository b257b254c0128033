import SchemaScript.Proofs.Deferrals

/-! The rounds of the queue.

Nothing in the queue marks them, but a queue whose chains all end goes round in rounds. Round `k`
starts with the tables of `k` or more deferrals waiting by name (`waitingFrom`). Each gets one turn:
those of exactly `k` deferrals are placed, since a parent of theirs was placed in an earlier round
or comes before them in this one, and the others go to the back, which keeps them by name (`round`).
A round places at least one table, so the turns suffice (`turns_turnsFor`), and what has been placed
by then is sorted by `rank`: `placedOrder_eq`. -/
namespace SchemaScript.Schema

variable {s : Schema} {e p : String × Table}

/-- The tables of at least `k` deferrals, by name. -/
def waitingFrom (s : Schema) (k : Nat) : List (String × Table) :=
  s.byName.filter fun e => decide (k ≤ s.deferrals e)

/-- The tables of exactly `k` deferrals, by name. -/
def roundOf (s : Schema) (k : Nat) : List (String × Table) :=
  s.byName.filter fun e => decide (s.deferrals e = k)

/-- The tables of fewer than `k` deferrals, round by round. -/
def placedBelow (s : Schema) (k : Nat) : List (String × Table) :=
  (List.range k).flatMap s.roundOf

theorem placedBelow_succ (s : Schema) (k : Nat) :
    s.placedBelow (k + 1) = s.placedBelow k ++ s.roundOf k := by
  simp only [placedBelow, List.range_succ, List.flatMap_append, List.flatMap_singleton]

theorem mem_roundOf {k : Nat} : e ∈ s.roundOf k ↔ e ∈ s.entries ∧ s.deferrals e = k := by
  simp only [roundOf, List.mem_filter, mem_byName, decide_eq_true_eq]

theorem mem_placedBelow {k : Nat} : e ∈ s.placedBelow k ↔ e ∈ s.entries ∧ s.deferrals e < k := by
  simp only [placedBelow, List.mem_flatMap, List.mem_range, mem_roundOf]
  constructor
  · intro h
    obtain ⟨j, hj, he, rfl⟩ := h
    exact ⟨he, hj⟩
  · intro h
    obtain ⟨he, hk⟩ := h
    exact ⟨_, hk, he, rfl⟩

theorem waitingFrom_zero (s : Schema) : s.waitingFrom 0 = s.byName := by
  simp [waitingFrom]

theorem waitingFrom_succ (s : Schema) (k : Nat) :
    s.waitingFrom (k + 1) = (s.waitingFrom k).filter fun e => decide (k < s.deferrals e) := by
  unfold waitingFrom
  rw [List.filter_filter]
  refine List.filter_congr fun e _ => ?_
  rw [← Bool.decide_and, decide_eq_decide]
  omega

/-! ### One turn -/

/-- A table in front of the queue waits exactly if its parent is there and has not been placed. -/
theorem holdsBack_of_link {q : Queue} (h : s.parentOf? e.2 = some p)
    (hplaced : ∀ a ∈ q.placed, a ∈ s.entries) :
    q.holdsBack s e.2 = true ↔ p ∉ q.placed := by
  simp only [Queue.holdsBack, h, Bool.not_eq_true', ← Bool.not_eq_true, List.contains_iff_mem]
  refine not_congr ⟨fun hmem => ?_, List.mem_map_of_mem⟩
  obtain ⟨a, ha, hkey⟩ := List.mem_map.mp hmem
  rwa [← s.entry_ext (hplaced a ha) (mem_of_parentOf? h) hkey]

/-- The queue in round `k` after the tables `done` have had their turn. -/
def midRound (s : Schema) (k : Nat) (done todo : List (String × Table)) : Queue where
  waiting := (todo.filter fun e => decide (k ≤ s.deferrals e)) ++
    done.filter fun e => decide (k < s.deferrals e)
  placed := s.placedBelow k ++ done.filter fun e => decide (s.deferrals e = k)

theorem mem_placed_midRound {k : Nat} {done todo : List (String × Table)}
    (hdone : ∀ a ∈ done, a ∈ s.entries) :
    p ∈ (s.midRound k done todo).placed ↔
      p ∈ s.entries ∧ (s.deferrals p < k ∨ s.deferrals p = k ∧ p ∈ done) := by
  simp only [midRound, List.mem_append, mem_placedBelow, List.mem_filter, decide_eq_true_eq]
  constructor
  · intro h
    obtain ⟨hp, hlt⟩ | ⟨hp, heq⟩ := h
    · exact ⟨hp, .inl hlt⟩
    · exact ⟨hdone p hp, .inr ⟨heq, hp⟩⟩
  · intro h
    obtain ⟨hp, hlt | ⟨heq, hmem⟩⟩ := h
    · exact .inl ⟨hp, hlt⟩
    · exact .inr ⟨hmem, heq⟩

/-- In round `k` the tables of more than `k` deferrals wait, and the others do not. -/
theorem holdsBack_midRound (hs : s.ChainsEnd) {k : Nat} {done todo : List (String × Table)}
    (hsplit : s.byName = done ++ e :: todo) (hk : k ≤ s.deferrals e) :
    (s.midRound k done (e :: todo)).holdsBack s e.2 = true ↔ k < s.deferrals e := by
  have hmem : ∀ a, a ∈ done ++ e :: todo ↔ a ∈ s.entries := fun a => by rw [← hsplit, mem_byName]
  have he : e ∈ s.entries := (hmem e).mp (by simp)
  have hdone : ∀ a ∈ done, a ∈ s.entries := fun a ha => (hmem a).mp (List.mem_append_left _ ha)
  cases hp : s.parentOf? e.2 with
  | none =>
    have hzero := deferrals_of_root he hp
    simp only [Queue.holdsBack, hp, Bool.false_eq_true, false_iff]
    omega
  | some p =>
    have hpmem := mem_of_parentOf? hp
    have hlink := deferrals_of_link he hp (hs e he)
    have hsorted := s.pairwise_byName
    rw [hsplit, List.pairwise_append, List.pairwise_cons] at hsorted
    rw [holdsBack_of_link hp fun a ha => ((mem_placed_midRound hdone).mp ha).1,
      mem_placed_midRound hdone]
    by_cases hb : before p e = true
    · rw [if_pos hb, Nat.add_zero] at hlink
      -- A parent that is earlier by name has had its turn before its child.
      have hpdone : p ∈ done := by
        have hsomewhere := (hmem p).mpr hpmem
        rw [List.mem_append, List.mem_cons] at hsomewhere
        rcases hsomewhere with h | h | h
        · exact h
        · exact absurd h ((hs e he).parent_ne hp)
        · have hplace := le_antisymm ((before_iff p e).mp hb)
            ((before_iff e p).mp (hsorted.2.1.1 p h))
          exact absurd (eq_of_place_eq hpmem he hplace) ((hs e he).parent_ne hp)
      simp only [hpmem, hpdone, true_and, and_true]
      omega
    · rw [if_neg hb] at hlink
      -- A parent that is later by name has not.
      have hpdone : p ∉ done := fun h => hb (hsorted.2.2 p h e (List.mem_cons_self ..))
      simp only [hpmem, hpdone, true_and, and_false, or_false]
      omega

/-- A table of fewer deferrals is no longer in the queue, so its turn takes no turn. -/
theorem midRound_of_placed {k : Nat} {done todo : List (String × Table)}
    (hk : ¬k ≤ s.deferrals e) : s.midRound k done (e :: todo) = s.midRound k (done ++ [e]) todo := by
  have hlt : ¬k < s.deferrals e := fun h => hk (Nat.le_of_lt h)
  have hne : ¬s.deferrals e = k := fun h => hk (Nat.le_of_eq h.symm)
  simp [midRound, List.filter_append, hk, hlt, hne]

theorem turn_midRound (hs : s.ChainsEnd) {k : Nat} {done todo : List (String × Table)}
    (hsplit : s.byName = done ++ e :: todo) (hk : k ≤ s.deferrals e) :
    (s.midRound k done (e :: todo)).turn s = s.midRound k (done ++ [e]) todo := by
  have hfront : (s.midRound k done (e :: todo)).waiting =
      e :: ((todo.filter fun e => decide (k ≤ s.deferrals e)) ++
        done.filter fun e => decide (k < s.deferrals e)) := by
    simp [midRound, hk]
  have hback := holdsBack_midRound hs hsplit hk
  by_cases hlt : k < s.deferrals e
  · have hne : ¬s.deferrals e = k := by omega
    rw [Queue.turn_of_held hfront (hback.mpr hlt)]
    simp [midRound, List.filter_append, hlt, hne]
  · have heq : s.deferrals e = k := by omega
    rw [Queue.turn_of_free hfront (Bool.not_eq_true _ ▸ fun h => hlt (hback.mp h))]
    simp [midRound, List.filter_append, heq]

/-! ### One round -/

/-- The rest of a round, one turn for each table that still waits for one. -/
theorem turns_midRound (hs : s.ChainsEnd) (k : Nat) (todo done : List (String × Table))
    (hsplit : s.byName = done ++ todo) :
    Queue.turns s (todo.filter fun e => decide (k ≤ s.deferrals e)).length
      (s.midRound k done todo) = s.midRound k s.byName [] := by
  induction todo generalizing done with
  | nil =>
    rw [List.append_nil] at hsplit
    rw [hsplit]
    rfl
  | cons e rest ih =>
    have hnext : s.byName = (done ++ [e]) ++ rest := by rw [hsplit]; simp
    by_cases hk : k ≤ s.deferrals e
    · rw [List.filter_cons_of_pos (by simpa using hk), List.length_cons, Queue.turns,
        turn_midRound hs hsplit hk]
      exact ih _ hnext
    · rw [List.filter_cons_of_neg (by simpa using hk), midRound_of_placed hk]
      exact ih _ hnext

/-- A round places the tables of one count and leaves those of greater counts, by name. -/
theorem round (hs : s.ChainsEnd) (k : Nat) :
    Queue.turns s (s.waitingFrom k).length ⟨s.waitingFrom k, s.placedBelow k⟩ =
      ⟨s.waitingFrom (k + 1), s.placedBelow (k + 1)⟩ := by
  have hround := turns_midRound hs k s.byName [] rfl
  have hstart : s.midRound k [] s.byName = ⟨s.waitingFrom k, s.placedBelow k⟩ := by
    simp [midRound, waitingFrom]
  have hend : s.midRound k s.byName [] = ⟨s.waitingFrom (k + 1), s.placedBelow (k + 1)⟩ := by
    rw [placedBelow_succ]
    rfl
  rw [← hstart, ← hend]
  exact hround

/-- As long as tables wait, a round places one of them. -/
theorem length_waitingFrom_succ_lt (hs : s.ChainsEnd) {k : Nat} (hne : s.waitingFrom k ≠ []) :
    (s.waitingFrom (k + 1)).length < (s.waitingFrom k).length := by
  obtain ⟨e, he⟩ := List.exists_mem_of_ne_nil _ hne
  simp only [waitingFrom, List.mem_filter, mem_byName, decide_eq_true_eq] at he
  obtain ⟨a, ha, heq⟩ := exists_deferrals_eq he.1 (hs e he.1) he.2
  rw [waitingFrom_succ, List.length_filter_lt_length_iff_exists]
  refine ⟨a, ?_, by simp [heq]⟩
  simp [waitingFrom, mem_byName, ha, heq]

/-! ### All rounds -/

theorem turnsFor_succ (n : Nat) : turnsFor (n + 1) = turnsFor n + (n + 1) := by
  unfold turnsFor
  have hdouble : (n + 1) * (n + 1 + 1) = n * (n + 1) + 2 * (n + 1) := by
    rw [← Nat.add_mul, Nat.mul_comm]
  omega

/-- An empty queue has no turns left. -/
theorem turns_of_empty (s : Schema) (n : Nat) (placed : List (String × Table)) :
    Queue.turns s n ⟨[], placed⟩ = ⟨[], placed⟩ := by
  induction n with
  | zero => rfl
  | succ n ih => exact ih

/-- The turns for `n` tables empty a queue in which no more than `n` tables wait for round `k`. -/
theorem turns_turnsFor (hs : s.ChainsEnd) (n k : Nat) (hlen : (s.waitingFrom k).length ≤ n) :
    ∃ m, Queue.turns s (turnsFor n) ⟨s.waitingFrom k, s.placedBelow k⟩ = ⟨[], s.placedBelow m⟩ ∧
      s.waitingFrom m = [] := by
  induction n generalizing k with
  | zero =>
    have hempty : s.waitingFrom k = [] := List.length_eq_zero_iff.mp (Nat.le_zero.mp hlen)
    exact ⟨k, by rw [hempty]; rfl, hempty⟩
  | succ n ih =>
    by_cases hempty : s.waitingFrom k = []
    · exact ⟨k, by rw [hempty, turns_of_empty], hempty⟩
    · have hlt := length_waitingFrom_succ_lt hs hempty
      obtain ⟨m, hm, hlast⟩ := ih (k + 1) (by omega)
      refine ⟨m, ?_, hlast⟩
      have hturns : turnsFor (n + 1) = (s.waitingFrom k).length +
          (turnsFor n + (n + 1 - (s.waitingFrom k).length)) := by
        rw [turnsFor_succ]
        omega
      rw [hturns, Queue.turns_add, round hs k, Queue.turns_add, hm, turns_of_empty]

/-! ### The order that comes out -/

theorem pairwise_placedBelow (s : Schema) (k : Nat) :
    (s.placedBelow k).Pairwise fun a b => s.writtenBefore a b = true := by
  induction k with
  | zero => exact .nil
  | succ k ih =>
    rw [placedBelow_succ, List.pairwise_append]
    refine ⟨ih, ?_, fun a ha b hb => ?_⟩
    · refine (s.pairwise_byName.filter _).imp_of_mem fun {a b} ha hb hab => ?_
      have heq : s.deferrals a = s.deferrals b :=
        (mem_roundOf.mp ha).2.trans (mem_roundOf.mp hb).2.symm
      simp [writtenBefore, heq, hab]
    · have hlt : s.deferrals a < s.deferrals b := by
        rw [(mem_roundOf.mp hb).2]
        exact (mem_placedBelow.mp ha).2
      simp [writtenBefore, hlt]

/-- Tables never leave a queue: a turn moves one or places it. -/
theorem perm_turn (s : Schema) (q : Queue) :
    ((q.turn s).waiting ++ (q.turn s).placed).Perm (q.waiting ++ q.placed) := by
  obtain ⟨waiting, placed⟩ := q
  cases waiting with
  | nil => exact .refl _
  | cons e rest =>
    simp only [Queue.turn]
    split
    · exact (List.perm_append_singleton e rest).append_right placed
    · rw [← List.append_assoc]
      exact List.perm_append_singleton e (rest ++ placed)

theorem perm_turns (s : Schema) (n : Nat) (q : Queue) :
    ((Queue.turns s n q).waiting ++ (Queue.turns s n q).placed).Perm (q.waiting ++ q.placed) := by
  induction n generalizing q with
  | zero => exact .refl _
  | succ n ih => exact (ih (q.turn s)).trans (perm_turn s q)

/-- The queue ends empty, with everything placed in the order of `writtenBefore`. -/
theorem placedOrder_spec (hs : s.ChainsEnd) :
    s.placedOrder.Perm s.entries ∧ s.placedOrder.Pairwise fun a b => s.writtenBefore a b = true := by
  have hlen : (s.waitingFrom 0).length ≤ s.size := by rw [waitingFrom_zero, length_byName]
  obtain ⟨m, hm, _⟩ := turns_turnsFor hs s.size 0 hlen
  rw [waitingFrom_zero, show s.placedBelow 0 = [] from rfl] at hm
  have horder : s.placedOrder = s.placedBelow m := by rw [placedOrder, hm]
  have hperm := perm_turns s (turnsFor s.size) ⟨s.byName, []⟩
  rw [hm, List.nil_append, List.append_nil] at hperm
  rw [horder]
  exact ⟨hperm.trans s.perm_byName, s.pairwise_placedBelow m⟩

/-- Only one arrangement of a schema's entries follows `writtenBefore`. -/
theorem eq_mergeSort_writtenBefore {l : List (String × Table)} (hperm : l.Perm s.entries)
    (hsorted : l.Pairwise fun a b => s.writtenBefore a b = true) :
    l = s.entries.mergeSort s.writtenBefore :=
  eq_mergeSort_of_place writtenBefore_iff (fun _ ha _ hb => eq_of_rank_eq ha hb) hperm hsorted

/-- **The queue sorts by deferrals and then by name.** -/
theorem placedOrder_eq (hs : s.ChainsEnd) :
    s.placedOrder = s.entries.mergeSort s.writtenBefore :=
  eq_mergeSort_writtenBefore (placedOrder_spec hs).1 (placedOrder_spec hs).2

end SchemaScript.Schema
