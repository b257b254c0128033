import SchemaScript.Proofs.Maps

/-! The schema that a history amounts to.

A schema starts empty, tables are added to it one at a time or several at once, and now and then it is
made anew of other tables (`Step`). Whatever the history, the schema is the map it says
(`schema_is_its_history`): under each id stands the last table with that id that was added since the
schema was last made anew, and nothing else. -/
namespace SchemaScript.Schema

/-! ### Histories -/

inductive Step where
  | insert (t : Table)
  | extend (ts : List Table)
  /-- A schema of these tables takes the place of the one there was. -/
  | renew (ts : List Table)

def Step.apply (s : Schema) : Step → Schema
  | insert t => (s.exchange t).2
  | extend ts => s.extend ts
  | renew ts => ofTables ts

/-- The schema at the end of a history. -/
def after (h : List Step) : Schema := h.foldl Step.apply empty

/-- What steps come down to: dropping everything and adding one table. -/
inductive Move where
  | clear
  | add (t : Table)

def Step.moves : Step → List Move
  | insert t => [.add t]
  | extend ts => ts.map .add
  | renew ts => .clear :: ts.map .add

/-- The moves of a history, those of all its steps one after another. -/
def movesOf (h : List Step) : List Move := h.flatMap Step.moves

def Move.addedTo (ts : List Table) : Move → List Table
  | clear => []
  | add t => ts ++ [t]

/-- The tables added since the schema was last made anew, in the order in which they were added. -/
def added (h : List Step) : List Table := (movesOf h).foldl Move.addedTo []

/-! ### A schema of tables added one by one -/

section Tables
variable (ts : List Table)

theorem get?_ofTables (id : String) : (ofTables ts).get? id = lastBy Table.id ts id := by
  have htables : (ofTables ts).tables = ts.foldl (fun m t => m.insert t.id t) ∅ :=
    (List.foldl_hom tables fun _ _ => rfl).symm
  rw [get?, htables, Keyed.get?_foldl_insert ∅ Table.id fun t => t, Keyed.get?_empty,
    Option.or_none, Option.map_id']

theorem mem_ids_ofTables (id : String) : id ∈ (ofTables ts).ids ↔ id ∈ ts.map Table.id := by
  rw [ids, Keyed.mem_keys_iff]
  show (ofTables ts).get? id ≠ none ↔ _
  rw [get?_ofTables, Ne, lastBy_eq_none_iff]
  simp

theorem size_ofTables : (ofTables ts).size = (ts.map Table.id).toFinset.card :=
  Keyed.size_eq_card (mem_ids_ofTables ts)

/-- A table stands under its own id. -/
theorem id_eq_of_mem_ofTables {e : String × Table} (h : e ∈ (ofTables ts).entries) : e.1 = e.2.id := by
  rw [← get?_eq_some_iff, get?_ofTables, lastBy_eq_some_iff] at h
  exact h.1.symm

end Tables

/-! ### Steps and runs -/

theorem foldl_addedTo_add (ts more : List Table) :
    (more.map Move.add).foldl Move.addedTo ts = ts ++ more := by
  induction more generalizing ts with
  | nil => simp
  | cons t more ih => rw [List.map_cons, List.foldl_cons, ih, Move.addedTo, List.append_assoc]; rfl

/-- One step adds the tables it says, or starts over with them. -/
theorem Step.apply_ofTables (ts : List Table) (step : Step) :
    step.apply (ofTables ts) = ofTables (step.moves.foldl Move.addedTo ts) := by
  cases step with
  | insert t =>
    rw [apply, exchange_eq]
    exact (extend_append empty ts [t]).symm
  | extend more => rw [moves, foldl_addedTo_add, apply, ofTables, ofTables, extend_append]
  | renew fresh => rw [moves, List.foldl_cons, foldl_addedTo_add, apply]; rfl

theorem foldl_apply_ofTables (ts : List Table) (h : List Step) :
    h.foldl Step.apply (ofTables ts) = ofTables ((movesOf h).foldl Move.addedTo ts) := by
  induction h generalizing ts with
  | nil => rfl
  | cons step h ih =>
    rw [List.foldl_cons, Step.apply_ofTables, ih, movesOf, movesOf, List.flatMap_cons,
      List.foldl_append]

/-- The schema at the end of a history is that of the tables added since it was last made anew. -/
theorem after_eq (h : List Step) : after h = ofTables (added h) := foldl_apply_ofTables [] h

/-- A table at the end of a history has been added in it. -/
theorem mem_added {h : List Step} {e : String × Table} (he : e ∈ (after h).entries) :
    e.2 ∈ added h := by
  rw [← get?_eq_some_iff, after_eq, get?_ofTables, lastBy_eq_some_iff] at he
  obtain ⟨_, before, after, hsplit, _⟩ := he
  rw [hsplit]
  simp

theorem after_append (h h' : List Step) : after (h ++ h') = h'.foldl Step.apply (after h) :=
  List.foldl_append

/-- Of tables with other ids it does not matter which is added first, whatever follows. -/
theorem lastBy_foldl_addedTo {ts ts' : List Table}
    (h : ∀ id, lastBy Table.id ts id = lastBy Table.id ts' id) (moves : List Move) (id : String) :
    lastBy Table.id (moves.foldl Move.addedTo ts) id =
      lastBy Table.id (moves.foldl Move.addedTo ts') id := by
  induction moves generalizing ts ts' with
  | nil => exact h id
  | cons move moves ih =>
    refine ih fun id => ?_
    cases move with
    | clear => rfl
    | add t => rw [Move.addedTo, Move.addedTo, lastBy_append, lastBy_append, h]

theorem lastBy_swap (ts : List Table) {a b : Table} (hab : a.id ≠ b.id) (id : String) :
    lastBy Table.id (ts ++ [a] ++ [b]) id = lastBy Table.id (ts ++ [b] ++ [a]) id := by
  simp only [lastBy_append, lastBy_singleton]
  by_cases ha : a.id = id
  · have hb : b.id ≠ id := fun hb => hab (ha.trans hb.symm)
    simp [ha, hb]
  · simp [ha]

/-- The same tables added in another order: two that were added one right after the other, with
different ids, have changed places. -/
def Exchanged (h h' : List Step) : Prop :=
  ∃ before a b after, a.id ≠ b.id ∧ movesOf h = before ++ .add a :: .add b :: after ∧
    movesOf h' = before ++ .add b :: .add a :: after

theorem Exchanged.after_beq {h h' : List Step} (hex : Exchanged h h') :
    (after h == after h') = true := by
  obtain ⟨before, a, b, rest, hab, hmoves, hmoves'⟩ := hex
  refine Schema.beq_iff.mpr fun id => ?_
  rw [after_eq, after_eq, get?_ofTables, get?_ofTables, added, added, hmoves, hmoves',
    List.foldl_append, List.foldl_append]
  exact beq_of_eq (lastBy_foldl_addedTo (lastBy_swap _ hab) rest id)

/-! ### The schema is its history -/

/-- What can be said of the schema at the end of a history. -/
structure IsItsHistory (h : List Step) : Prop where
  keyed : ∀ e ∈ (after h).entries, e.1 = e.2.id
  /-- Under an id stands the last table with that id, if one was added. -/
  last : ∀ id, (after h).get? id = lastBy Table.id (added h) id
  contained : ∀ id, (after h).contains id = ((after h).get? id).isSome ∧
    ((after h).contains id = true ↔ ∃ t ∈ added h, t.id = id)
  /-- There are as many tables as different ids. -/
  counted : (after h).size = ((added h).map Table.id).toFinset.card
  /-- Inserting a table gives back what stood under its id. -/
  givenBack : ∀ t, (after h).exchange t = ((after h).get? t.id, after (h ++ [.insert t]))
  /-- Tables make the same schema at once as in two parts. -/
  parted : ∀ xs ys, after (h ++ [.renew (xs ++ ys)]) = after (h ++ [.renew xs, .extend ys])
  exchanged : ∀ h', Exchanged h h' → (after h == after h') = true

/-- **A schema is the map its history says.** -/
theorem schema_is_its_history (h : List Step) : IsItsHistory h where
  keyed e he := by
    rw [after_eq] at he
    exact id_eq_of_mem_ofTables _ he
  last id := by rw [after_eq, get?_ofTables]
  contained id := by
    refine ⟨rfl, ?_⟩
    rw [contains_iff, after_eq, mem_ids_ofTables, List.mem_map]
  counted := by rw [after_eq, size_ofTables]
  givenBack t := by
    rw [exchange_eq, after_append]
    exact congrArg _ (congrArg Prod.snd (exchange_eq _ t)).symm
  parted xs ys := by
    rw [after_append, after_append]
    exact extend_append empty xs ys
  exchanged h' hex := hex.after_beq

/-- A table that comes again takes the place it had, and making the schema anew drops the others. -/
example : let h := [Step.insert (.named "t0" "A"), .renew [.named "t1" "B", .named "t2" "C"],
      .extend [.named "t3" "D", .named "t1" "E"]]
    (after h).entries.map (fun e => (e.1, e.2.name)) = [("t1", "E"), ("t2", "C"), ("t3", "D")] := by
  decide

end SchemaScript.Schema
