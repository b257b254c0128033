import SchemaScript.Proofs.Subjects
import Mathlib.Algebra.Ring.Nat

/-! The parts of a script.

A script is its sequences, then its tables with their indexes, then its foreign keys, and a
configuration may leave out either of the last two. Each part is written by itself
(`outcome_generate_withParts`), so the four scripts of a schema fit together (`parts_add_up`): leaving
out a part takes away its statements and its faults, and nothing else. -/
namespace SchemaScript

/-- The configuration that differs only in which parts are written. -/
def Config.withParts (cfg : Config) (tables foreignKeys : Bool) : Config :=
  { cfg with tables, foreignKeys }

/-! ### Each part by itself -/

/-- How a subject is written does not depend on what else is. -/
theorem Subject.write_withParts (cfg : Config) (tables foreignKeys : Bool) (s : Schema)
    (x : Subject) : x.write (cfg.withParts tables foreignKeys) s = x.write cfg s := by
  cases x <;> rfl

theorem Subject.render_withParts (cfg : Config) (tables foreignKeys : Bool) (s : Schema)
    (x : Subject) : x.render (cfg.withParts tables foreignKeys) s = x.render cfg s := by
  rw [Subject.render, Subject.write_withParts, Subject.render]

namespace Script

/-- The statements of the sequences, which cannot fail. -/
def sequencePart (cfg : Config) (sequences : Keyed Sequence) : List Statement :=
  (sequences.values.mergeSort Sequence.before).map fun q => ⟨.sequence q, q.createText cfg⟩

def tablePart (cfg : Config) (s : Schema) (order : List (String × Table)) :
    Except Fault (List Statement) :=
  (order.flatMap tableSubjects).mapM fun x => (x.render cfg s).outcome

def foreignKeyPart (cfg : Config) (s : Schema) (order : List (String × Table)) :
    Except Fault (List Statement) :=
  (order.flatMap foreignKeySubjects).mapM fun x => (x.render cfg s).outcome

theorem length_sequencePart (cfg : Config) (sequences : Keyed Sequence) :
    (sequencePart cfg sequences).length = sequences.size := by
  simp [sequencePart, Keyed.values, Keyed.size]

theorem mapM_render_sequenceSubjects (cfg : Config) (s : Schema) (sequences : Keyed Sequence) :
    ((sequenceSubjects sequences).mapM fun x : Subject => (x.render cfg s).outcome) =
      .ok (sequencePart cfg sequences) := by
  rw [sequenceSubjects, sequencePart, mapM_render_eq_ok_iff, List.map_map]
  refine ⟨rfl, fun st hst => ?_⟩
  obtain ⟨q, _, rfl⟩ := List.mem_map.mp hst
  exact Sequence.outcome_create cfg q

theorem mapM_append_eq {α β : Type} (f : α → Except Fault β) (xs ys : List α) :
    (xs ++ ys).mapM f = (xs.mapM f).bind fun bs => (ys.mapM f).map (bs ++ ·) := by
  rw [List.mapM_append]
  cases xs.mapM f with
  | error e => rfl
  | ok bs => cases ys.mapM f <;> rfl

/-- A script is put together from those of its parts that are written. -/
theorem outcome_generate_withParts (cfg : Config) (s : Schema) (sequences : Keyed Sequence)
    (tables foreignKeys : Bool) :
    (generate (cfg.withParts tables foreignKeys) s sequences).outcome =
      s.inOrder.bind fun order =>
        (if tables then tablePart cfg s order else .ok []).bind fun created =>
          (if foreignKeys then foreignKeyPart cfg s order else .ok []).map fun added =>
            sequencePart cfg sequences ++ (created ++ added) := by
  rw [outcome_generate]
  simp only [Subject.render_withParts, mapM_render_sequenceSubjects]
  show s.inOrder.bind _ = _
  congr 1
  funext order
  have hparts : orderedSubjects (cfg.withParts tables foreignKeys) order =
      (if tables then order.flatMap tableSubjects else []) ++
        (if foreignKeys then order.flatMap foreignKeySubjects else []) := rfl
  have hcreated : (if tables then order.flatMap tableSubjects else []).mapM
      (fun x : Subject => (x.render cfg s).outcome) =
        if tables then tablePart cfg s order else .ok [] := by
    cases tables <;> rfl
  have hadded : (if foreignKeys then order.flatMap foreignKeySubjects else []).mapM
      (fun x : Subject => (x.render cfg s).outcome) =
        if foreignKeys then foreignKeyPart cfg s order else .ok [] := by
    cases foreignKeys <;> rfl
  rw [hparts, mapM_append_eq, hcreated, hadded]
  cases if tables then tablePart cfg s order else .ok [] with
  | error e => rfl
  | ok created => cases if foreignKeys then foreignKeyPart cfg s order else .ok [] <;> rfl

theorem generate_withParts_eq_ok_iff {cfg : Config} {s : Schema} {sequences : Keyed Sequence}
    {tables foreignKeys : Bool} {whole : List Statement} :
    (generate (cfg.withParts tables foreignKeys) s sequences).outcome = .ok whole ↔
      ∃ order, s.inOrder = .ok order ∧
        ∃ created, (if tables then tablePart cfg s order else .ok []) = .ok created ∧
          ∃ added, (if foreignKeys then foreignKeyPart cfg s order else .ok []) = .ok added ∧
            sequencePart cfg sequences ++ (created ++ added) = whole := by
  simp only [outcome_generate_withParts, bind_eq_ok_iff, map_eq_ok_iff]

theorem generate_withParts_eq_error_iff {cfg : Config} {s : Schema} {sequences : Keyed Sequence}
    {tables foreignKeys : Bool} {f : Fault} :
    (generate (cfg.withParts tables foreignKeys) s sequences).outcome = .error f ↔
      s.inOrder = .error f ∨ ∃ order, s.inOrder = .ok order ∧
        ((if tables then tablePart cfg s order else .ok []) = .error f ∨
          ∃ created, (if tables then tablePart cfg s order else .ok []) = .ok created ∧
            (if foreignKeys then foreignKeyPart cfg s order else .ok []) = .error f) := by
  simp only [outcome_generate_withParts, bind_eq_error_iff, map_eq_error_iff]

end Script

/-! ### All parts together -/

open Script

/-- What the four scripts of a schema, with and without tables and with and without foreign keys, have
to do with each other. -/
structure PartsAddUp (cfg : Config) (s : Schema) (sequences : Keyed Sequence)
    (script : Bool → Bool → Except Fault (List Statement)) : Prop where
  /-- The whole script can be written exactly if both can that leave out a part. -/
  succeeds : Succeeds (script true true) ↔
    Succeeds (script true false) ∧ Succeeds (script false true)
  /-- It is the one with the tables, followed by the foreign keys of the other. -/
  joined : ∀ created added, script true false = .ok created → script false true = .ok added →
    script true true = .ok (created ++ added.drop sequences.size)
  /-- All begin with the sequences, which are all there is without tables and foreign keys. -/
  begins : ∀ tables foreignKeys whole, script tables foreignKeys = .ok whole →
    script false false = .ok (whole.take sequences.size)
  /-- A fault of the tables is that of the whole script. -/
  tablesFail : ∀ f, script true false = .error f → script true true = .error f
  /-- So is a fault of the foreign keys, if the tables have none. -/
  foreignKeysFail : ∀ f, Succeeds (script true false) → script false true = .error f →
    script true true = .error f
  length : ∀ tables foreignKeys whole, script tables foreignKeys = .ok whole →
    whole.length = sequences.size +
      (if tables then (s.entries.map fun e => 1 + e.2.indexes.length).sum else 0) +
        if foreignKeys then (s.entries.map fun e => e.2.foreignKeys.length).sum else 0
  /-- Each sequence, each table, each index and each foreign key has one statement. -/
  once : ∀ tables foreignKeys whole, script tables foreignKeys = .ok whole →
    (whole.map Statement.subject).Perm (sequences.values.map .sequence ++
      ((if tables then s.entries.flatMap fun e =>
          .table e.1 e.2 :: e.2.indexes.map fun i => .index e.1 e.2 i else []) ++
        if foreignKeys then s.entries.flatMap fun e =>
          e.2.foreignKeys.map fun k => .foreignKey e.1 e.2 k else []))
  /-- The statement reads as its subject is written, whatever parts there are. -/
  rendered : ∀ tables foreignKeys whole, script tables foreignKeys = .ok whole →
    ∀ st ∈ whole, (st.subject.write cfg s).outcome = .ok st.text

variable {cfg : Config} {s : Schema} {sequences : Keyed Sequence}

namespace Script

/-- The subjects of a script are those of the schema's entries, in some order. -/
theorem perm_subjects (hs : s.ChainsEnd) :
    (subjects cfg s sequences).Perm
      (sequences.values.map .sequence ++ orderedSubjects cfg s.entries) := by
  have horder := (Schema.placedOrder_spec hs).1
  refine .append ((List.mergeSort_perm ..).map _) (.append ?_ ?_)
  · split
    · exact horder.flatMap_right tableSubjects
    · exact .nil
  · split
    · exact horder.flatMap_right foreignKeySubjects
    · exact .nil

theorem perm_subjects_of_generate {whole : List Statement}
    (h : (generate cfg s sequences).outcome = .ok whole) :
    (whole.map Statement.subject).Perm
      (sequences.values.map .sequence ++ orderedSubjects cfg s.entries) := by
  have hw := generate_eq_ok_iff.mp h
  rw [hw.subjects_eq]
  exact perm_subjects hw.ends

theorem length_tableSubjects (e : String × Table) :
    (tableSubjects e).length = 1 + e.2.indexes.length := by
  simp [tableSubjects, Nat.add_comm]

theorem length_foreignKeySubjects (e : String × Table) :
    (foreignKeySubjects e).length = e.2.foreignKeys.length := by
  simp [foreignKeySubjects]

theorem length_orderedSubjects (cfg : Config) (order : List (String × Table)) :
    (orderedSubjects cfg order).length =
      (if cfg.tables then (order.map fun e => 1 + e.2.indexes.length).sum else 0) +
        if cfg.foreignKeys then (order.map fun e => e.2.foreignKeys.length).sum else 0 := by
  rw [orderedSubjects, List.length_append]
  congr 1
  · split
    · simp only [List.length_flatMap, length_tableSubjects]
    · rfl
  · split
    · simp only [List.length_flatMap, length_foreignKeySubjects]
    · rfl

/-- The script with the tables and the one with the foreign keys make the whole script. -/
theorem generate_joined {created added : List Statement}
    (hcreated : (generate (cfg.withParts true false) s sequences).outcome = .ok created)
    (hadded : (generate (cfg.withParts false true) s sequences).outcome = .ok added) :
    (generate (cfg.withParts true true) s sequences).outcome =
      .ok (created ++ added.drop sequences.size) := by
  obtain ⟨order, horder, tables, htables, _, ⟨⟩, rfl⟩ := generate_withParts_eq_ok_iff.mp hcreated
  obtain ⟨order', horder', _, ⟨⟩, keys, hkeys, rfl⟩ := generate_withParts_eq_ok_iff.mp hadded
  cases horder.symm.trans horder'
  refine generate_withParts_eq_ok_iff.mpr ⟨order, horder, tables, htables, keys, hkeys, ?_⟩
  rw [List.drop_left' (length_sequencePart cfg sequences), List.append_nil, List.nil_append,
    List.append_assoc]

end Script

/-- **The scripts of a schema with and without tables and foreign keys fit together.** -/
theorem parts_add_up (cfg : Config) (s : Schema) (sequences : Keyed Sequence) :
    PartsAddUp cfg s sequences fun tables foreignKeys =>
      (Script.generate (cfg.withParts tables foreignKeys) s sequences).outcome := by
  constructor
  case succeeds =>
    constructor
    · intro h
      obtain ⟨_, h⟩ := h
      obtain ⟨order, horder, tables, htables, keys, hkeys, _⟩ := generate_withParts_eq_ok_iff.mp h
      exact ⟨⟨_, generate_withParts_eq_ok_iff.mpr ⟨order, horder, tables, htables, [], rfl, rfl⟩⟩,
        ⟨_, generate_withParts_eq_ok_iff.mpr ⟨order, horder, [], rfl, keys, hkeys, rfl⟩⟩⟩
    · intro h
      obtain ⟨⟨_, hcreated⟩, _, hadded⟩ := h
      exact ⟨_, generate_joined hcreated hadded⟩
  case joined =>
    intro created added hcreated hadded
    exact generate_joined hcreated hadded
  case begins =>
    intro tables foreignKeys whole h
    obtain ⟨order, horder, _, _, _, _, rfl⟩ := generate_withParts_eq_ok_iff.mp h
    refine generate_withParts_eq_ok_iff.mpr ⟨order, horder, [], rfl, [], rfl, ?_⟩
    rw [List.take_left' (length_sequencePart cfg sequences), List.append_nil, List.append_nil]
  case tablesFail =>
    intro f h
    refine generate_withParts_eq_error_iff.mpr ?_
    rcases generate_withParts_eq_error_iff.mp h with hcircle | ⟨order, horder, htables | hnone⟩
    · exact .inl hcircle
    · exact .inr ⟨order, horder, .inl htables⟩
    · obtain ⟨_, _, hnone⟩ := hnone
      cases hnone
  case foreignKeysFail =>
    intro f hsucceeds h
    obtain ⟨_, hwhole⟩ := hsucceeds
    obtain ⟨order, horder, tables, htables, _⟩ := generate_withParts_eq_ok_iff.mp hwhole
    refine generate_withParts_eq_error_iff.mpr (.inr ⟨order, horder, .inr ⟨tables, htables, ?_⟩⟩)
    rcases generate_withParts_eq_error_iff.mp h with hcircle | ⟨_, horder', hnone | ⟨_, _, hkeys⟩⟩
    · cases hcircle.symm.trans horder
    · cases hnone
    · cases horder.symm.trans horder'
      exact hkeys
  case length =>
    intro tables foreignKeys whole h
    have hcount := (perm_subjects_of_generate h).length_eq
    rw [List.length_map, List.length_append, List.length_map, length_orderedSubjects,
      ← Nat.add_assoc] at hcount
    rw [hcount]
    congr 2
    exact List.length_map ..
  case once =>
    intro tables foreignKeys whole h
    -- The lists are those of `tableSubjects` and `foreignKeySubjects`, written out.
    exact perm_subjects_of_generate h
  case rendered =>
    intro tables foreignKeys whole h st hst
    rw [← Subject.write_withParts cfg tables foreignKeys]
    exact (Script.generate_eq_ok_iff.mp h).text_eq st hst

end SchemaScript
