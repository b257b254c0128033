import SchemaScript.Proofs.Subjects

/-! What the runs of the script fail with.

The fault of a statement is that of the first lookup that finds nothing, and which lookups are made
depends on the schema alone: `Subject.fault?` says which fault a subject has without speaking of
names, dialects or comments, and `faultOf?_write` that its run ends in this fault. The fault of a
script is the circle among parents that comes first by name, or else that of its first subject that
has one (`generate_eq_error_iff`). -/
namespace SchemaScript

variable {α β : Type}

/-! ### Faults of outcomes -/

/-- The fault that an outcome ends in, if it does. -/
def faultOf? : Except Fault α → Option Fault
  | .ok _ => none
  | .error f => some f

@[simp] theorem faultOf?_ok (a : α) : faultOf? (.ok a : Except Fault α) = none := rfl

@[simp] theorem faultOf?_error (f : Fault) : faultOf? (.error f : Except Fault α) = some f := rfl

theorem faultOf?_eq_some_iff {x : Except Fault α} {f : Fault} :
    faultOf? x = some f ↔ x = .error f := by
  cases x <;> simp

theorem faultOf?_eq_none_iff {x : Except Fault α} : faultOf? x = none ↔ Succeeds x := by
  cases x <;> simp

@[simp] theorem faultOf?_map (x : Except Fault α) (f : α → β) :
    faultOf? (x.map f) = faultOf? x := by
  cases x <;> rfl

/-- Of two steps the first fault counts, if the fault of the second does not depend on what the first
has found. -/
theorem faultOf?_bind {x : Except Fault α} {f : α → Except Fault β} {second : Option Fault}
    (h : ∀ a, faultOf? (f a) = second) : faultOf? (x.bind f) = (faultOf? x).or second := by
  cases x with
  | error e => rfl
  | ok a => exact h a

/-- A traversal ends in the first fault there is. -/
theorem faultOf?_mapM (f : α → Except Fault β) (l : List α) :
    faultOf? (l.mapM f) = l.findSome? fun a => faultOf? (f a) := by
  induction l with
  | nil => rfl
  | cons a l ih =>
    rw [mapM_cons_eq, List.findSome?_cons, ← ih]
    cases f a <;> simp [Except.bind]

/-! ### Columns that are not there -/

namespace Table

/-- The fault of the first of some column ids that the table does not define. -/
def firstMissing? (t : Table) (ids : List String) : Option Fault :=
  (ids.find? fun id => !t.columns.contains id).map (.missingColumn t.name)

variable {t : Table} {ids : List String} {f : Fault}

theorem exists_of_firstMissing? (h : t.firstMissing? ids = some f) :
    ∃ id ∈ ids, t.columns.contains id = false ∧ f = .missingColumn t.name id := by
  obtain ⟨id, hid, rfl⟩ := Option.map_eq_some_iff.mp h
  exact ⟨id, List.mem_of_find?_eq_some hid, by simpa using List.find?_some hid, rfl⟩

theorem firstMissing?_append (t : Table) (xs ys : List String) :
    t.firstMissing? (xs ++ ys) = (t.firstMissing? xs).or (t.firstMissing? ys) := by
  unfold firstMissing?
  rw [List.find?_append]
  cases xs.find? fun id => !t.columns.contains id <;> rfl

theorem firstMissing?_cons (t : Table) (id : String) (ids : List String) :
    t.firstMissing? (id :: ids) = (faultOf? (t.column id)).or (t.firstMissing? ids) := by
  unfold firstMissing? Table.column Keyed.contains
  rw [List.find?_cons]
  cases t.columns.get? id <;> rfl

/-- Looking up one column for each item of a list ends in the fault of the first that is missing. -/
theorem faultOf?_mapM_column {lookup : α → Except Fault β} {column : α → String}
    (h : ∀ a, faultOf? (lookup a) = faultOf? (t.column (column a))) (l : List α) :
    faultOf? (l.mapM lookup) = t.firstMissing? (l.map column) := by
  rw [faultOf?_mapM]
  induction l with
  | nil => rfl
  | cons a l ih =>
    rw [List.findSome?_cons, List.map_cons, firstMissing?_cons, ih, h]
    cases faultOf? (t.column (column a)) <;> rfl

theorem faultOf?_columnName (cfg : Config) (t : Table) (id : String) :
    faultOf? (t.columnName cfg id) = faultOf? (t.column id) := faultOf?_map ..

theorem faultOf?_columnNames (cfg : Config) (t : Table) (ids : List String) :
    faultOf? (t.columnNames cfg ids) = t.firstMissing? ids := by
  rw [columnNames, faultOf?_map, faultOf?_mapM_column (t.faultOf?_columnName cfg), List.map_id']

/-- The columns of a key, in its order. -/
def keyColumns (parts : List KeyPart) : List String := (KeyPart.sorted parts).map KeyPart.column

theorem mem_keyColumns {parts : List KeyPart} {id : String} :
    id ∈ keyColumns parts ↔ ∃ part ∈ parts, part.column = id := by
  simp only [keyColumns, List.mem_map, (KeyPart.perm_sorted parts).mem_iff]

theorem faultOf?_keyText (cfg : Config) (t : Table) (parts : List KeyPart) :
    faultOf? (t.keyText cfg parts) = t.firstMissing? (keyColumns parts) := by
  rw [keyText, faultOf?_map, keyColumns]
  refine faultOf?_mapM_column (fun part => ?_) _
  rw [keyPartText, faultOf?_map, faultOf?_columnName]

end Table

/-! ### Faults of statements -/

/-- The first fault of a foreign key: its two lists differ in length, the table it refers to is not
there, or a column is missing, first of its own table and then of the other one. -/
def ForeignKey.fault? (s : Schema) (t : Table) (k : ForeignKey) : Option Fault :=
  if k.columns.length ≠ k.targetColumns.length then
    some (.unevenForeignKey t.name k.title k.columns.length k.targetColumns.length)
  else match s.get? k.targetTable with
    | none => some (.missingTable k.targetTable)
    | some target => (t.firstMissing? k.columns).or (target.firstMissing? k.targetColumns)

/-- The first fault of a subject, if it has one. Sequences have none. -/
def Subject.fault? (s : Schema) : Subject → Option Fault
  | sequence _ => none
  | table _ t => t.firstMissing? (t.columnIds ++ Table.keyColumns t.primaryKey)
  | index _ t i => t.firstMissing? (Table.keyColumns i.keys ++ i.extraColumns t)
  | foreignKey _ t k => k.fault? s t

theorem Index.faultOf?_storingClause (cfg : Config) (t : Table) (i : Index) :
    faultOf? (i.storingClause cfg t) = t.firstMissing? (i.extraColumns t) := by
  unfold Index.storingClause
  split
  · rename_i h
    rw [h]
    rfl
  · rw [faultOf?_map, Table.faultOf?_columnNames]

theorem ForeignKey.faultOf?_constraint (cfg : Config) (s : Schema) (t : Table) (k : ForeignKey) :
    faultOf? (k.constraint cfg s t) = k.fault? s t := by
  unfold ForeignKey.fault?
  by_cases h : k.columns.length = k.targetColumns.length
  · rw [if_neg (not_not.mpr h), ForeignKey.constraint_of_even h]
    cases htarget : s.get? k.targetTable with
    | none =>
      rw [Schema.table, htarget]
      rfl
    | some target =>
      have htargets (columns : String) :
          faultOf? ((target.columnNames cfg k.targetColumns).map
            (k.constraintText cfg target columns)) = target.firstMissing? k.targetColumns := by
        rw [faultOf?_map, Table.faultOf?_columnNames]
      rw [Schema.table_eq_ok_iff.mpr htarget]
      exact (faultOf?_bind htargets).trans (by rw [Table.faultOf?_columnNames])
  · rw [if_pos h, ForeignKey.constraint_of_uneven h, faultOf?_error]

/-- **The fault of a statement is a matter of the schema**, not of how the statement is written. -/
theorem Subject.faultOf?_write (cfg : Config) (s : Schema) (x : Subject) :
    faultOf? (x.write cfg s).outcome = x.fault? s := by
  cases x with
  | sequence q => rfl
  | table key t =>
    have hkey (columns : List Column) :
        faultOf? ((t.keyText cfg t.primaryKey).map (t.createText cfg s columns)) =
          t.firstMissing? (Table.keyColumns t.primaryKey) := by
      rw [faultOf?_map, Table.faultOf?_keyText]
    have hcolumns : faultOf? (t.columnIds.mapM t.column) = t.firstMissing? t.columnIds := by
      rw [Table.faultOf?_mapM_column fun id => Eq.refl (faultOf? (t.column id)), List.map_id']
    rw [Subject.write, Table.outcome_create, faultOf?_bind hkey, hcolumns, Subject.fault?,
      Table.firstMissing?_append]
  | index key t i =>
    have hstoring (keys : String) :
        faultOf? ((i.storingClause cfg t).map (i.createText cfg t keys)) =
          t.firstMissing? (i.extraColumns t) := by
      rw [faultOf?_map, Index.faultOf?_storingClause]
    rw [Subject.write, Index.outcome_create, faultOf?_bind hstoring, Table.faultOf?_keyText,
      Subject.fault?, Table.firstMissing?_append]
  | foreignKey key t k =>
    rw [Subject.write, ForeignKey.outcome_add, faultOf?_map, ForeignKey.faultOf?_constraint,
      Subject.fault?]

theorem Schema.inOrder_eq_error_iff {s : Schema} {f : Fault} :
    s.inOrder = .error f ↔ ∃ e, s.firstCircular? = some e ∧ f = .interleaveCycle e.2.name := by
  unfold Schema.inOrder
  cases s.firstCircular? with
  | none => simp
  | some e => simp [eq_comm]

namespace Script

variable {cfg : Config} {s : Schema} {sequences : Keyed Sequence} {f : Fault}

theorem faultOf?_mapM_render (cfg : Config) (s : Schema) (l : List Subject) :
    faultOf? (l.mapM fun x => (x.render cfg s).outcome) = l.findSome? (Subject.fault? s) := by
  rw [faultOf?_mapM]
  congr 1
  funext x
  rw [outcome_render, faultOf?_map, Subject.faultOf?_write]

/-- Sequences can always be written. -/
theorem findSome?_fault?_sequenceSubjects (s : Schema) (sequences : Keyed Sequence) :
    (sequenceSubjects sequences).findSome? (Subject.fault? s) = none := by
  rw [List.findSome?_eq_none_iff]
  intro x hx
  obtain ⟨q, _, rfl⟩ := mem_sequenceSubjects.mp hx
  rfl

theorem findSome?_fault?_subjects (cfg : Config) (s : Schema) (sequences : Keyed Sequence) :
    (subjects cfg s sequences).findSome? (Subject.fault? s) =
      (orderedSubjects cfg s.placedOrder).findSome? (Subject.fault? s) := by
  rw [subjects, List.findSome?_append, findSome?_fault?_sequenceSubjects, Option.none_or]

theorem faultOf?_generate (cfg : Config) (s : Schema) (sequences : Keyed Sequence) :
    faultOf? (generate cfg s sequences).outcome =
      faultOf? (s.inOrder.bind fun order =>
        (orderedSubjects cfg order).mapM fun x : Subject => (x.render cfg s).outcome) := by
  have hfirst := faultOf?_mapM_render cfg s (sequenceSubjects sequences)
  rw [findSome?_fault?_sequenceSubjects] at hfirst
  obtain ⟨first, hok⟩ := faultOf?_eq_none_iff.mp hfirst
  rw [outcome_generate, hok]
  cases s.inOrder with
  | error e => rfl
  | ok order => exact faultOf?_map ..

/-- **A script fails for a circle among parents, or else for the first subject that has a fault.** -/
theorem generate_eq_error_iff :
    (generate cfg s sequences).outcome = .error f ↔
      (∃ e, s.firstCircular? = some e ∧ f = .interleaveCycle e.2.name) ∨
        s.ChainsEnd ∧ (subjects cfg s sequences).findSome? (Subject.fault? s) = some f := by
  rw [← faultOf?_eq_some_iff, faultOf?_generate, findSome?_fault?_subjects]
  cases h : s.inOrder with
  | error e =>
    have hcircular : ¬s.ChainsEnd := fun hs => by
      rw [Schema.inOrder_eq_ok_iff.mpr ⟨hs, rfl⟩] at h
      cases h
    rw [← Schema.inOrder_eq_error_iff, h]
    simp [Except.bind, hcircular]
  | ok order =>
    obtain ⟨hs, rfl⟩ := Schema.inOrder_eq_ok_iff.mp h
    have hnone := Schema.firstCircular?_eq_none_iff.mpr hs
    simp [hnone, hs, Except.bind, faultOf?_mapM_render]

end Script

end SchemaScript
