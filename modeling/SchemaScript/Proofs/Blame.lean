import SchemaScript.Proofs.Faults
import SchemaScript.Proofs.Resolution

/-! What a fault says is so, and which of several faults is reported.

`Fault.IsTrueOf` says when each fault is true of a schema. A script that fails reports a true fault
(`generate_reports`), and of several the one that comes first: a circle among parents before anything
else, then what tables and their indexes lack, then what foreign keys lack. -/
namespace SchemaScript

/-! ### When a fault is true -/

/-- A column id that a table, its key or its indexes mention. Columns that an index is asked to store
count only if they are not in the primary key. -/
inductive Table.Mentions (t : Table) (id : String) : Prop where
  | body (h : id ∈ t.columnIds)
  | key (part : KeyPart) (h : part ∈ t.primaryKey) (hid : part.column = id)
  | indexKey (i : Index) (hi : i ∈ t.indexes) (part : KeyPart) (h : part ∈ i.keys)
      (hid : part.column = id)
  | stored (i : Index) (hi : i ∈ t.indexes) (h : id ∈ i.stored)
      (hkey : ∀ part ∈ t.primaryKey, part.column ≠ id)

/-- A column id that foreign keys use for the table of an entry, be it the declaring table or the one
that is referred to. -/
inductive Schema.Links (s : Schema) (e : String × Table) (id : String) : Prop where
  | declared (k : ForeignKey) (hk : k ∈ e.2.foreignKeys) (h : id ∈ k.columns)
  | referred (a : String × Table) (ha : a ∈ s.entries) (k : ForeignKey) (hk : k ∈ a.2.foreignKeys)
      (htarget : k.targetTable = e.1) (h : id ∈ k.targetColumns)

/-- A foreign key goes by its name, or by its id if it has none or an empty one. -/
def ForeignKey.GoesBy (k : ForeignKey) (name : String) : Prop :=
  k.name = some name ∧ name ≠ "" ∨ (k.name = none ∨ k.name = some "") ∧ name = k.id

/-- What has to be so in a schema for a fault of its script to be true. -/
def Fault.IsTrueOf (cfg : Config) (s : Schema) : Fault → Prop
  | missingColumn table column => ∃ e ∈ s.entries, e.2.name = table ∧
      e.2.columns.contains column = false ∧
        (cfg.tables = true ∧ e.2.Mentions column ∨ cfg.foreignKeys = true ∧ s.Links e column)
  | missingTable id => cfg.foreignKeys = true ∧ s.contains id = false ∧
      ∃ e ∈ s.entries, ∃ k ∈ e.2.foreignKeys,
        k.targetTable = id ∧ k.columns.length = k.targetColumns.length
  | unevenForeignKey table name columns targets => cfg.foreignKeys = true ∧ columns ≠ targets ∧
      ∃ e ∈ s.entries, e.2.name = table ∧ ∃ k ∈ e.2.foreignKeys,
        k.columns.length = columns ∧ k.targetColumns.length = targets ∧ k.GoesBy name
  | interleaveCycle table => ∃ e ∈ s.entries, e.2.name = table ∧ ¬s.ChainEnds e

/-- A fault of what a table, its key or its indexes mention. -/
def Fault.IsOfTables (s : Schema) (f : Fault) : Prop :=
  ∃ e ∈ s.entries, ∃ column, f = .missingColumn e.2.name column ∧
    e.2.columns.contains column = false ∧ e.2.Mentions column

/-- A fault in which the statement of a foreign key ends. -/
def Fault.IsOfForeignKeys (cfg : Config) (s : Schema) (f : Fault) : Prop :=
  ∃ e ∈ s.entries, ∃ k ∈ e.2.foreignKeys, (k.add cfg s e.2).outcome = .error f

/-- What a script owes to those who read its fault. -/
structure Reports (cfg : Config) (s : Schema) (sequences : Keyed Sequence) (f : Fault) : Prop where
  /-- The fault is true. -/
  holds : f.IsTrueOf cfg s
  /-- An infinite chain counts before everything else; of several the one whose table comes first by
  name and key. -/
  circleFirst : (∃ e ∈ s.entries, ¬s.ChainEnds e) → ∃ e ∈ s.entries, ¬s.ChainEnds e ∧
    f = .interleaveCycle e.2.name ∧ ∀ a ∈ s.entries, ¬s.ChainEnds a → Schema.before e a = true
  /-- Tables and indexes count before foreign keys. -/
  tablesNext : s.ChainsEnd → cfg.tables = true → (∃ e ∈ s.entries, ¬e.2.DefinesColumns) →
    f.IsOfTables s
  /-- Foreign keys count only if they are written and nothing is wrong with tables and indexes, or
  those are not written. -/
  keysLast : s.ChainsEnd → (cfg.tables = true → ∀ e ∈ s.entries, e.2.DefinesColumns) →
    cfg.foreignKeys = true ∧ f.IsOfForeignKeys cfg s
  /-- In the order of writing nothing fails before the subject with the fault. -/
  first : s.ChainsEnd → ∃ front x back, Script.subjects cfg s sequences = front ++ x :: back ∧
    (∀ y ∈ front, Succeeds (y.write cfg s).outcome) ∧ (x.write cfg s).outcome = .error f

variable {cfg : Config} {s : Schema} {sequences : Keyed Sequence} {f : Fault}

/-! ### The fault of one subject -/

theorem ForeignKey.goesBy_title (k : ForeignKey) : k.GoesBy k.title := by
  unfold ForeignKey.GoesBy ForeignKey.title
  cases hname : k.name with
  | none => simp
  | some name =>
    by_cases h : name = ""
    · simp [h]
    · simp [Text.given?_some name h, h]

/-- What is mentioned and missing makes the fault of the table or of one of its indexes. -/
theorem Subject.isOfTables_of_fault? {e : String × Table} {x : Subject} (he : e ∈ s.entries)
    (hx : x ∈ Script.tableSubjects e) (h : x.fault? s = some f) : f.IsOfTables s := by
  rcases Script.mem_tableSubjects.mp hx with rfl | ⟨i, hi, rfl⟩
  · obtain ⟨id, hid, hmissing, rfl⟩ := Table.exists_of_firstMissing? h
    refine ⟨e, he, id, rfl, hmissing, ?_⟩
    rcases List.mem_append.mp hid with hbody | hkey
    · exact .body hbody
    · obtain ⟨part, hpart, rfl⟩ := Table.mem_keyColumns.mp hkey
      exact .key part hpart rfl
  · obtain ⟨id, hid, hmissing, rfl⟩ := Table.exists_of_firstMissing? h
    refine ⟨e, he, id, rfl, hmissing, ?_⟩
    rcases List.mem_append.mp hid with hkey | hstored
    · obtain ⟨part, hpart, rfl⟩ := Table.mem_keyColumns.mp hkey
      exact .indexKey i hi part hpart rfl
    · obtain ⟨hstored, hkey⟩ := Index.mem_extraColumns.mp hstored
      exact .stored i hi hstored hkey

theorem ForeignKey.isTrueOf_of_fault? {e : String × Table} {k : ForeignKey}
    (hkeys : cfg.foreignKeys = true) (he : e ∈ s.entries) (hk : k ∈ e.2.foreignKeys)
    (h : k.fault? s e.2 = some f) : f.IsTrueOf cfg s := by
  unfold ForeignKey.fault? at h
  split at h
  · rename_i huneven
    cases h
    exact ⟨hkeys, huneven, e, he, rfl, k, hk, rfl, rfl, k.goesBy_title⟩
  · rename_i heven
    have heven := not_not.mp heven
    split at h
    · rename_i hgone
      cases h
      refine ⟨hkeys, ?_, e, he, k, hk, rfl, heven⟩
      rw [Schema.contains, Keyed.contains]
      exact congrArg Option.isSome hgone
    · rename_i target htarget
      rcases Option.or_eq_some_iff.mp h with hown | ⟨_, hother⟩
      · obtain ⟨id, hid, hmissing, rfl⟩ := Table.exists_of_firstMissing? hown
        exact ⟨e, he, rfl, hmissing, .inr ⟨hkeys, .declared k hk hid⟩⟩
      · obtain ⟨id, hid, hmissing, rfl⟩ := Table.exists_of_firstMissing? hother
        exact ⟨(k.targetTable, target), s.get?_eq_some_iff.mp htarget, rfl, hmissing,
          .inr ⟨hkeys, .referred e he k hk rfl hid⟩⟩

theorem Fault.IsOfTables.isTrueOf (h : f.IsOfTables s) (htables : cfg.tables = true) :
    f.IsTrueOf cfg s := by
  obtain ⟨e, he, column, rfl, hmissing, hmentions⟩ := h
  exact ⟨e, he, rfl, hmissing, .inl ⟨htables, hmentions⟩⟩

/-- The fault of something that belongs to a script is true. -/
theorem Subject.isTrueOf_of_fault? {x : Subject} (hx : x.Belongs cfg s sequences)
    (h : x.fault? s = some f) : f.IsTrueOf cfg s := by
  cases x with
  | sequence q => cases h
  | table key t =>
    have hmem : Subject.table key t ∈ Script.tableSubjects (key, t) :=
      Script.mem_tableSubjects.mpr (.inl rfl)
    exact (Subject.isOfTables_of_fault? hx.2 hmem h).isTrueOf hx.1
  | index key t i =>
    have hmem : Subject.index key t i ∈ Script.tableSubjects (key, t) :=
      Script.mem_tableSubjects.mpr (.inr ⟨i, hx.2.2, rfl⟩)
    exact (Subject.isOfTables_of_fault? hx.2.1 hmem h).isTrueOf hx.1
  | foreignKey key t k => exact ForeignKey.isTrueOf_of_fault? hx.1 hx.2.1 hx.2.2 h

/-! ### Circles -/

/-- The circle that is reported is the first by name. -/
theorem Schema.firstCircular?_spec {e : String × Table} (h : s.firstCircular? = some e) :
    e ∈ s.entries ∧ ¬s.ChainEnds e ∧
      ∀ a ∈ s.entries, ¬s.ChainEnds a → Schema.before e a = true := by
  have hiff {a : String × Table} (ha : a ∈ s.entries) :
      (s.ascent a).circular = true ↔ ¬s.ChainEnds a := by
    rw [← circular_ascent_iff ha, Bool.not_eq_false]
  obtain ⟨hcircular, front, back, hsplit, hfront⟩ := List.find?_eq_some_iff_append.mp h
  have he : e ∈ s.entries := mem_byName.mp (by rw [hsplit]; simp)
  refine ⟨he, (hiff he).mp hcircular, fun a ha hends => ?_⟩
  have hsorted := s.pairwise_byName
  rw [hsplit, List.pairwise_append, List.pairwise_cons] at hsorted
  have hmem := mem_byName.mpr ha
  rw [hsplit, List.mem_append, List.mem_cons] at hmem
  rcases hmem with hbefore | rfl | hafter
  · have hnot := hfront a hbefore
    rw [(hiff ha).mpr hends] at hnot
    cases hnot
  · exact (before_iff a a).mpr (le_refl _)
  · exact hsorted.2.1.1 a hafter

/-! ### The fault of a script -/

namespace Script

/-- The fault that a script ends in is true. -/
theorem isTrueOf_of_error (h : (generate cfg s sequences).outcome = .error f) : f.IsTrueOf cfg s := by
  rcases generate_eq_error_iff.mp h with ⟨e, hfirst, rfl⟩ | ⟨hs, hfirst⟩
  · obtain ⟨he, hends, _⟩ := Schema.firstCircular?_spec hfirst
    exact ⟨e, he, rfl, hends⟩
  · obtain ⟨x, hx, hfault⟩ := List.exists_of_findSome?_eq_some hfirst
    exact Subject.isTrueOf_of_fault? ((mem_subjects hs).mp hx) hfault

/-- No table or index of a script has a fault exactly if the tables define what they mention. -/
theorem findSome?_fault?_tables_eq_none_iff (cfg : Config) {order : List (String × Table)} :
    (order.flatMap tableSubjects).findSome? (Subject.fault? s) = none ↔
      ∀ e ∈ order, e.2.DefinesColumns := by
  simp only [List.findSome?_eq_none_iff, List.mem_flatMap, Table.definesColumns_iff cfg s,
    ← faultOf?_eq_none_iff]
  constructor
  · intro h e he
    have hsubject (x : Subject) (hx : x ∈ tableSubjects e) :
        faultOf? (x.write cfg s).outcome = none := by
      rw [Subject.faultOf?_write]
      exact h x ⟨e, he, hx⟩
    exact ⟨hsubject (.table e.1 e.2) (mem_tableSubjects.mpr (.inl rfl)),
      fun i hi => hsubject (.index e.1 e.2 i) (mem_tableSubjects.mpr (.inr ⟨i, hi, rfl⟩))⟩
  · intro h x hx
    obtain ⟨e, he, hx⟩ := hx
    rw [← Subject.faultOf?_write cfg]
    rcases mem_tableSubjects.mp hx with rfl | ⟨i, hi, rfl⟩
    · exact (h e he).1
    · exact (h e he).2 i hi

/-- A table that does not define its columns keeps foreign keys from counting. -/
theorem isOfTables_of_findSome? (hs : s.ChainsEnd) (htables : cfg.tables = true)
    (hmissing : ∃ e ∈ s.entries, ¬e.2.DefinesColumns)
    (h : (subjects cfg s sequences).findSome? (Subject.fault? s) = some f) : f.IsOfTables s := by
  rw [findSome?_fault?_subjects, orderedSubjects, if_pos htables, List.findSome?_append] at h
  have hnone : ¬(s.placedOrder.flatMap tableSubjects).findSome? (Subject.fault? s) = none := by
    rw [findSome?_fault?_tables_eq_none_iff cfg]
    intro hall
    obtain ⟨e, he, hnot⟩ := hmissing
    exact hnot (hall e ((Schema.mem_placedOrder hs).mpr he))
  rcases Option.or_eq_some_iff.mp h with hsome | ⟨hnone', _⟩
  · obtain ⟨x, hx, hfault⟩ := List.exists_of_findSome?_eq_some hsome
    obtain ⟨e, he, hx⟩ := List.mem_flatMap.mp hx
    exact Subject.isOfTables_of_fault? ((Schema.mem_placedOrder hs).mp he) hx hfault
  · exact absurd hnone' hnone

/-- Where nothing is wrong with tables and indexes, a foreign key is at fault. -/
theorem isOfForeignKeys_of_findSome? (hs : s.ChainsEnd)
    (hdefined : cfg.tables = true → ∀ e ∈ s.entries, e.2.DefinesColumns)
    (h : (subjects cfg s sequences).findSome? (Subject.fault? s) = some f) :
    cfg.foreignKeys = true ∧ f.IsOfForeignKeys cfg s := by
  have htables : (if cfg.tables then s.placedOrder.flatMap tableSubjects else []).findSome?
      (Subject.fault? s) = none := by
    split
    · rename_i htables
      rw [findSome?_fault?_tables_eq_none_iff cfg]
      exact fun e he => hdefined htables e ((Schema.mem_placedOrder hs).mp he)
    · rfl
  rw [findSome?_fault?_subjects, orderedSubjects, List.findSome?_append, htables,
    Option.none_or] at h
  obtain ⟨x, hx, hfault⟩ := List.exists_of_findSome?_eq_some h
  split at hx
  · rename_i hkeys
    obtain ⟨e, he, hx⟩ := List.mem_flatMap.mp hx
    obtain ⟨k, hk, rfl⟩ := mem_foreignKeySubjects.mp hx
    rw [← Subject.faultOf?_write cfg, faultOf?_eq_some_iff] at hfault
    exact ⟨hkeys, e, (Schema.mem_placedOrder hs).mp he, k, hk, hfault⟩
  · cases hx

end Script

/-- **A script that fails reports a fault that is true, and the first one in a fixed order.** -/
theorem generate_reports (cfg : Config) (s : Schema) (sequences : Keyed Sequence) (f : Fault)
    (h : (Script.generate cfg s sequences).outcome = .error f) : Reports cfg s sequences f := by
  rcases Script.generate_eq_error_iff.mp h with ⟨e, hfirst, rfl⟩ | ⟨hs, hfirst⟩
  · obtain ⟨he, hends, hleast⟩ := Schema.firstCircular?_spec hfirst
    have hcircle : ¬s.ChainsEnd := fun hs => hends (hs e he)
    exact {
      holds := ⟨e, he, rfl, hends⟩
      circleFirst := fun _ => ⟨e, he, hends, rfl, hleast⟩
      tablesNext := fun hs => absurd hs hcircle
      keysLast := fun hs => absurd hs hcircle
      first := fun hs => absurd hs hcircle }
  · obtain ⟨front, x, back, hsplit, hfault, hfront⟩ := List.findSome?_eq_some_iff.mp hfirst
    have hx : x.Belongs cfg s sequences := (Script.mem_subjects hs).mp (by rw [hsplit]; simp)
    refine {
      holds := Subject.isTrueOf_of_fault? hx hfault
      circleFirst := ?_
      tablesNext := fun hs htables hmissing =>
        Script.isOfTables_of_findSome? hs htables hmissing hfirst
      keysLast := fun hs hdefined => Script.isOfForeignKeys_of_findSome? hs hdefined hfirst
      first := fun _ => ⟨front, x, back, hsplit, fun y hy => ?_, ?_⟩ }
    · intro hcircle
      obtain ⟨e, he, hends⟩ := hcircle
      exact absurd (hs e he) hends
    · rw [← faultOf?_eq_none_iff, Subject.faultOf?_write]
      exact hfront y hy
    · rw [← faultOf?_eq_some_iff, Subject.faultOf?_write]
      exact hfault

/-- A table that lacks a column and has a foreign key that leads nowhere. -/
def Schema.broken : Schema :=
  ofTables [{ Table.named "t1" "Albums" with
    columnIds := ["c9"], foreignKeys := [.toTable "f1" "gone"] }]

theorem generate_reports_broken :
    (Script.generate {} Schema.broken ∅).outcome = .error (.missingColumn "Albums" "c9") ∧
      Reports {} Schema.broken ∅ (.missingColumn "Albums" "c9") := by
  have hall : ∀ e ∈ Schema.broken.entries, Schema.broken.onChain? e 1 = none := by decide
  have hname : Schema.broken.byName = Schema.broken.entries :=
    List.mergeSort_of_pairwise (by decide)
  have h : (Script.generate {} Schema.broken ∅).outcome = .error (.missingColumn "Albums" "c9") := by
    refine Script.generate_eq_error_iff.mpr (.inr ⟨fun e he => ⟨1, hall e he⟩, ?_⟩)
    rw [Script.findSome?_fault?_subjects, Schema.placedOrder, hname]
    rfl
  exact ⟨h, generate_reports {} Schema.broken ∅ _ h⟩

end SchemaScript
