import SchemaScript.Proofs.Outcomes
import SchemaScript.Proofs.TableOrder

/-! What a script consists of.

A schema whose chains end has a list of subjects (`Script.subjects`). A script that could be written
is `Written`: it has one statement for each of them in that order, with the text that the subject's
own run gives (`generate_eq_ok_iff`). Which subjects there are says `mem_subjects`, and which may stand before
which `MayPrecede`: sequences, then tables by rank with their indexes behind them, then foreign
keys. -/
namespace SchemaScript

variable {cfg : Config} {s : Schema} {sequences : Keyed Sequence}

/-! ### The statements of a script -/

namespace Script

/-- What the statements of a script define, in order. -/
def subjects (cfg : Config) (s : Schema) (sequences : Keyed Sequence) : List Subject :=
  sequenceSubjects sequences ++ orderedSubjects cfg s.placedOrder

theorem outcome_render (cfg : Config) (s : Schema) (x : Subject) :
    (x.render cfg s).outcome = (x.write cfg s).outcome.map (⟨x, ·⟩) :=
  Run.outcome_bind_pure _ _

theorem render_succeeds_iff {x : Subject} :
    Succeeds (x.render cfg s).outcome ↔ Succeeds (x.write cfg s).outcome := by
  rw [outcome_render, map_succeeds_iff]

theorem render_eq_ok_iff {x : Subject} {st : Statement} :
    (x.render cfg s).outcome = .ok st ↔ st.subject = x ∧ (x.write cfg s).outcome = .ok st.text := by
  rw [outcome_render, map_eq_ok_iff]
  constructor
  · intro h
    obtain ⟨text, htext, rfl⟩ := h
    exact ⟨rfl, htext⟩
  · intro h
    obtain ⟨rfl, htext⟩ := h
    exact ⟨st.text, htext, rfl⟩

/-- Writing subjects one after another gives a statement for each, with the text of its own run. -/
theorem mapM_render_eq_ok_iff {l : List Subject} {script : List Statement} :
    (l.mapM fun x => (x.render cfg s).outcome) = .ok script ↔
      script.map Statement.subject = l ∧
        ∀ st ∈ script, (st.subject.write cfg s).outcome = .ok st.text := by
  rw [mapM_eq_ok_iff]
  simp only [render_eq_ok_iff]
  induction l generalizing script with
  | nil => cases script <;> simp
  | cons x l ih =>
    cases script with
    | nil => simp
    | cons st script =>
      simp only [List.forall₂_cons, ih, List.map_cons, List.cons.injEq, List.forall_mem_cons]
      constructor
      · intro h
        obtain ⟨⟨rfl, htext⟩, hmap, hall⟩ := h
        exact ⟨⟨rfl, hmap⟩, htext, hall⟩
      · intro h
        obtain ⟨⟨rfl, hmap⟩, htext, hall⟩ := h
        exact ⟨⟨rfl, htext⟩, hmap, hall⟩

theorem outcome_arrange (s : Schema) : (arrange s).outcome = s.inOrder := by
  simp only [arrange, Run.outcome_bind, Run.outcome_ofExcept, Run.outcome_emit]
  cases s.inOrder <;> rfl

theorem outcome_generate (cfg : Config) (s : Schema) (sequences : Keyed Sequence) :
    (generate cfg s sequences).outcome =
      ((sequenceSubjects sequences).mapM fun x : Subject => (x.render cfg s).outcome).bind fun first =>
        s.inOrder.bind fun order =>
          ((orderedSubjects cfg order).mapM fun x : Subject => (x.render cfg s).outcome).map
            (first ++ ·) := by
  rw [generate, Run.outcome_bind, Run.outcome_each]
  congr 1
  funext first
  rw [Run.outcome_bind, outcome_arrange]
  congr 1
  funext order
  rw [Run.outcome_bind, Run.outcome_each]
  cases (orderedSubjects cfg order).mapM fun x : Subject => (x.render cfg s).outcome <;> rfl

/-- A complete script: the tables could be put in order, and each subject has its statement. -/
structure Written (cfg : Config) (s : Schema) (sequences : Keyed Sequence)
    (script : List Statement) : Prop where
  ends : s.ChainsEnd
  subjects_eq : script.map Statement.subject = subjects cfg s sequences
  text_eq : ∀ st ∈ script, (st.subject.write cfg s).outcome = .ok st.text

/-- **A run succeeds exactly with a complete script.** -/
theorem generate_eq_ok_iff {script : List Statement} :
    (generate cfg s sequences).outcome = .ok script ↔ Written cfg s sequences script := by
  simp only [outcome_generate, bind_eq_ok_iff, map_eq_ok_iff, Schema.inOrder_eq_ok_iff,
    mapM_render_eq_ok_iff]
  constructor
  · intro h
    obtain ⟨first, ⟨hfirst, hwritten⟩, order, ⟨hs, rfl⟩, rest, ⟨hrest, hwritten'⟩, rfl⟩ := h
    refine ⟨hs, by rw [List.map_append, hfirst, hrest, subjects], fun st hst => ?_⟩
    rcases List.mem_append.mp hst with h | h
    · exact hwritten st h
    · exact hwritten' st h
  · intro h
    obtain ⟨first, rest, rfl, hfirst, hrest⟩ := List.map_eq_append_iff.mp h.subjects_eq
    exact ⟨first, ⟨hfirst, fun st hst => h.text_eq st (List.mem_append_left _ hst)⟩, _,
      ⟨h.ends, rfl⟩, rest, ⟨hrest, fun st hst => h.text_eq st (List.mem_append_right _ hst)⟩, rfl⟩

theorem generate_succeeds_iff (cfg : Config) (s : Schema) (sequences : Keyed Sequence) :
    Succeeds (generate cfg s sequences).outcome ↔
      s.ChainsEnd ∧ ∀ x ∈ subjects cfg s sequences, Succeeds (x.write cfg s).outcome := by
  constructor
  · intro h
    obtain ⟨script, h⟩ := h
    have hw := generate_eq_ok_iff.mp h
    refine ⟨hw.ends, fun x hx => ?_⟩
    rw [← hw.subjects_eq] at hx
    obtain ⟨st, hst, rfl⟩ := List.mem_map.mp hx
    exact ⟨st.text, hw.text_eq st hst⟩
  · intro h
    obtain ⟨hs, hwritten⟩ := h
    have hrender : ∀ x ∈ subjects cfg s sequences, Succeeds (x.render cfg s).outcome :=
      fun x hx => render_succeeds_iff.mpr (hwritten x hx)
    obtain ⟨script, hscript⟩ := mapM_succeeds_iff.mpr hrender
    obtain ⟨hsubjects, htexts⟩ := mapM_render_eq_ok_iff.mp hscript
    exact ⟨script, generate_eq_ok_iff.mpr ⟨hs, hsubjects, htexts⟩⟩

end Script

/-! ### Which subjects there are -/

namespace Subject

/-- Whether a script with these settings defines something. -/
def Belongs (cfg : Config) (s : Schema) (sequences : Keyed Sequence) : Subject → Prop
  | sequence q => q ∈ sequences.values
  | table key t => cfg.tables = true ∧ (key, t) ∈ s.entries
  | index key t i => cfg.tables = true ∧ (key, t) ∈ s.entries ∧ i ∈ t.indexes
  | foreignKey key t k => cfg.foreignKeys = true ∧ (key, t) ∈ s.entries ∧ k ∈ t.foreignKeys

end Subject

namespace Script

theorem mem_sequenceSubjects {x : Subject} :
    x ∈ sequenceSubjects sequences ↔ ∃ q ∈ sequences.values, x = .sequence q := by
  simp [sequenceSubjects, eq_comm]

theorem mem_tableSubjects {e : String × Table} {x : Subject} :
    x ∈ tableSubjects e ↔ x = .table e.1 e.2 ∨ ∃ i ∈ e.2.indexes, x = .index e.1 e.2 i := by
  simp [tableSubjects, eq_comm]

theorem mem_foreignKeySubjects {e : String × Table} {x : Subject} :
    x ∈ foreignKeySubjects e ↔ ∃ k ∈ e.2.foreignKeys, x = .foreignKey e.1 e.2 k := by
  simp [foreignKeySubjects, eq_comm]

theorem mem_orderedSubjects {order : List (String × Table)} {x : Subject} :
    x ∈ orderedSubjects cfg order ↔
      (cfg.tables = true ∧ ∃ e ∈ order, x ∈ tableSubjects e) ∨
        cfg.foreignKeys = true ∧ ∃ e ∈ order, x ∈ foreignKeySubjects e := by
  unfold orderedSubjects
  rw [List.mem_append]
  split <;> split <;> simp_all [List.mem_flatMap]

theorem mem_subjects (hs : s.ChainsEnd) {x : Subject} :
    x ∈ subjects cfg s sequences ↔ x.Belongs cfg s sequences := by
  rw [subjects, List.mem_append, mem_sequenceSubjects, mem_orderedSubjects]
  simp only [mem_tableSubjects, mem_foreignKeySubjects, Schema.mem_placedOrder hs]
  cases x <;> simp [Subject.Belongs]

end Script

/-! ### Which subject may stand before which -/

namespace Subject

/-- What the rule of the order says of two subjects, the first of which comes before the second. -/
def MayPrecede (s : Schema) : Subject → Subject → Prop
  | sequence _, _ => True
  | table key t, table key' t' => s.rank (key, t) < s.rank (key', t')
  | table key t, index key' t' _ => s.rank (key, t) ≤ s.rank (key', t')
  | index key t _, table key' t' => s.rank (key, t) < s.rank (key', t')
  | index key t _, index key' t' _ => s.rank (key, t) ≤ s.rank (key', t')
  | table .., foreignKey .. => True
  | index .., foreignKey .. => True
  | foreignKey .., foreignKey .. => True
  | _, _ => False

end Subject

namespace Script

open Subject

theorem pairwise_tableSubjects (s : Schema) (e : String × Table) :
    (tableSubjects e).Pairwise (MayPrecede s) := by
  rw [tableSubjects, List.pairwise_cons, List.pairwise_map]
  refine ⟨fun x hx => ?_, List.pairwise_of_forall fun _ _ => le_refl _⟩
  obtain ⟨i, _, rfl⟩ := List.mem_map.mp hx
  exact le_refl _

/-- Everything about a table of lower rank may precede everything about one of higher rank. -/
theorem mayPrecede_of_rank_lt {a b : String × Table} (h : s.rank a < s.rank b) {x y : Subject}
    (hx : x ∈ tableSubjects a) (hy : y ∈ tableSubjects b) : MayPrecede s x y := by
  rcases mem_tableSubjects.mp hx with rfl | ⟨i, _, rfl⟩ <;>
    rcases mem_tableSubjects.mp hy with rfl | ⟨j, _, rfl⟩
  · exact h
  · exact le_of_lt h
  · exact h
  · exact le_of_lt h

/-- A script keeps to the rule of the order. -/
theorem pairwise_subjects (hs : s.ChainsEnd) :
    (subjects cfg s sequences).Pairwise (MayPrecede s) := by
  rw [subjects, orderedSubjects, List.pairwise_append, List.pairwise_append]
  refine ⟨?_, ⟨?_, ?_, ?_⟩, ?_⟩
  · rw [sequenceSubjects, List.pairwise_map]
    exact List.pairwise_of_forall fun _ _ => trivial
  · split
    · rw [List.pairwise_flatMap]
      refine ⟨fun e _ => pairwise_tableSubjects s e, (Schema.pairwise_rank_placedOrder hs).imp ?_⟩
      intro a b hab x hx y hy
      exact mayPrecede_of_rank_lt hab hx hy
    · exact .nil
  · split
    · rw [List.pairwise_iff_forall_sublist]
      intro x y hxy
      have hmem : ∀ z ∈ [x, y], ∃ key t k, z = .foreignKey key t k := by
        intro z hz
        obtain ⟨e, _, hze⟩ := List.mem_flatMap.mp (hxy.subset hz)
        obtain ⟨k, _, rfl⟩ := mem_foreignKeySubjects.mp hze
        exact ⟨_, _, k, rfl⟩
      obtain ⟨_, _, _, rfl⟩ := hmem x (by simp)
      obtain ⟨_, _, _, rfl⟩ := hmem y (by simp)
      trivial
    · exact .nil
  · intro x hx y hy
    split at hx
    · split at hy
      · obtain ⟨_, _, hx⟩ := List.mem_flatMap.mp hx
        obtain ⟨_, _, hy⟩ := List.mem_flatMap.mp hy
        obtain ⟨_, _, rfl⟩ := mem_foreignKeySubjects.mp hy
        rcases mem_tableSubjects.mp hx with rfl | ⟨_, _, rfl⟩ <;> trivial
      · cases hy
    · cases hx
  · intro x hx y _
    obtain ⟨q, _, rfl⟩ := mem_sequenceSubjects.mp hx
    trivial

/-! ### Positions of statements -/

namespace Written
variable {script : List Statement} {a b : Statement} {i j : Nat}

theorem subject_at (h : Written cfg s sequences script) (hi : script[i]? = some a) :
    (subjects cfg s sequences)[i]? = some a.subject := by
  rw [← h.subjects_eq, List.getElem?_map, hi]
  rfl

theorem exists_at (h : Written cfg s sequences script) {x : Subject}
    (hi : (subjects cfg s sequences)[i]? = some x) : ∃ text, script[i]? = some ⟨x, text⟩ := by
  rw [← h.subjects_eq, List.getElem?_map] at hi
  obtain ⟨st, hst, rfl⟩ := Option.map_eq_some_iff.mp hi
  exact ⟨st.text, hst⟩

theorem text_at (h : Written cfg s sequences script) (hi : script[i]? = some a) :
    (a.subject.write cfg s).outcome = .ok a.text :=
  h.text_eq a (List.mem_of_getElem? hi)

theorem belongs_at (h : Written cfg s sequences script) (hi : script[i]? = some a) :
    a.subject.Belongs cfg s sequences :=
  (mem_subjects h.ends).mp (List.mem_of_getElem? (h.subject_at hi))

/-- A statement stands before another if the rule does not allow the other way round. -/
theorem lt_of_not_mayPrecede (h : Written cfg s sequences script) (hi : script[i]? = some a)
    (hj : script[j]? = some b) (hne : a.subject ≠ b.subject)
    (hba : ¬MayPrecede s b.subject a.subject) : i < j :=
  lt_of_pairwise (pairwise_subjects h.ends) (h.subject_at hi) (h.subject_at hj) hne hba

theorem mayPrecede_of_lt (h : Written cfg s sequences script) (hi : script[i]? = some a)
    (hj : script[j]? = some b) (hij : i < j) : MayPrecede s a.subject b.subject :=
  rel_of_pairwise (pairwise_subjects h.ends) (h.subject_at hi) (h.subject_at hj) hij

end Written

end Script

end SchemaScript
