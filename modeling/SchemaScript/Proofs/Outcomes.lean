import SchemaScript.Script.Generate
import Mathlib.Data.List.Forall2

/-! What the runs of the script end in.

A run is its events and its outcome; here only outcomes count. `outcome_each` turns a run over a list
into the traversal of its outcomes, and for each kind of statement one equation gives the outcome of
writing it in terms of the lookups it makes (`outcome_create`, `outcome_add`). A traversal succeeds
exactly if each of its steps does (`mapM_succeeds_iff`). -/
namespace SchemaScript

variable {α β : Type}

/-! ### Traversals -/

/-- Whether there is a result and not a fault. -/
def Succeeds (x : Except Fault α) : Prop := ∃ a, x = .ok a

@[simp] theorem succeeds_ok (a : α) : Succeeds (.ok a : Except Fault α) := ⟨a, rfl⟩

@[simp] theorem not_succeeds_error (e : Fault) : ¬Succeeds (.error e : Except Fault α) := by
  intro hs
  obtain ⟨a, h⟩ := hs
  cases h

theorem bind_eq_ok_iff {x : Except Fault α} {f : α → Except Fault β} {b : β} :
    x.bind f = .ok b ↔ ∃ a, x = .ok a ∧ f a = .ok b := by
  cases x <;> simp [Except.bind]

theorem map_eq_ok_iff {x : Except Fault α} {f : α → β} {b : β} :
    x.map f = .ok b ↔ ∃ a, x = .ok a ∧ f a = b := by
  cases x <;> simp [Except.map]

theorem bind_eq_error_iff {x : Except Fault α} {f : α → Except Fault β} {e : Fault} :
    x.bind f = .error e ↔ x = .error e ∨ ∃ a, x = .ok a ∧ f a = .error e := by
  cases x <;> simp [Except.bind]

theorem map_eq_error_iff {x : Except Fault α} {f : α → β} {e : Fault} :
    x.map f = .error e ↔ x = .error e := by
  cases x <;> simp [Except.map]

theorem map_succeeds_iff {x : Except Fault α} {f : α → β} : Succeeds (x.map f) ↔ Succeeds x := by
  cases x <;> simp [Except.map]

theorem bind_succeeds_iff {x : Except Fault α} {f : α → Except Fault β} :
    Succeeds (x.bind f) ↔ ∃ a, x = .ok a ∧ Succeeds (f a) := by
  cases x <;> simp [Except.bind]

theorem mapM_cons_eq (f : α → Except Fault β) (a : α) (l : List α) :
    (a :: l).mapM f = (f a).bind fun b => (l.mapM f).map (b :: ·) := by
  rw [List.mapM_cons]
  cases f a with
  | error e => rfl
  | ok b => cases l.mapM f <;> rfl

theorem mapM_eq_ok_iff {f : α → Except Fault β} {l : List α} {bs : List β} :
    l.mapM f = .ok bs ↔ List.Forall₂ (fun a b => f a = .ok b) l bs := by
  induction l generalizing bs with
  | nil => cases bs <;> simp [pure, Except.pure]
  | cons a l ih =>
    simp only [mapM_cons_eq, bind_eq_ok_iff, map_eq_ok_iff, ih, List.forall₂_cons_left_iff]
    constructor
    · intro h
      obtain ⟨b, hb, bs, hbs, rfl⟩ := h
      exact ⟨b, bs, hb, hbs, rfl⟩
    · intro h
      obtain ⟨b, bs, hb, hbs, rfl⟩ := h
      exact ⟨b, hb, bs, hbs, rfl⟩

theorem mapM_succeeds_iff {f : α → Except Fault β} {l : List α} :
    Succeeds (l.mapM f) ↔ ∀ a ∈ l, Succeeds (f a) := by
  induction l with
  | nil => simp [pure, Except.pure]
  | cons a l ih =>
    rw [mapM_cons_eq, bind_succeeds_iff, List.forall_mem_cons, ← ih]
    simp only [map_succeeds_iff]
    constructor
    · intro h
      obtain ⟨b, hb, hl⟩ := h
      exact ⟨⟨b, hb⟩, hl⟩
    · intro h
      obtain ⟨⟨b, hb⟩, hl⟩ := h
      exact ⟨b, hb, hl⟩

theorem Run.outcome_each (f : α → Run β) (l : List α) :
    (Run.each f l).outcome = l.mapM fun a => (f a).outcome := by
  induction l with
  | nil => rfl
  | cons a l ih =>
    rw [Run.each_cons, mapM_cons_eq, Run.outcome_bind, ← ih]
    simp only [Run.outcome_bind_pure]

/-! ### Lookups -/

theorem Table.column_succeeds_iff {t : Table} {id : String} :
    Succeeds (t.column id) ↔ t.columns.contains id = true := by
  unfold Table.column Keyed.contains
  cases t.columns.get? id <;> simp

theorem Table.columnName_succeeds_iff {cfg : Config} {t : Table} {id : String} :
    Succeeds (t.columnName cfg id) ↔ t.columns.contains id = true := by
  rw [Table.columnName, map_succeeds_iff, Table.column_succeeds_iff]

theorem Table.columnNames_succeeds_iff {cfg : Config} {t : Table} {ids : List String} :
    Succeeds (t.columnNames cfg ids) ↔ ∀ id ∈ ids, t.columns.contains id = true := by
  simp only [Table.columnNames, map_succeeds_iff, mapM_succeeds_iff, Table.columnName_succeeds_iff]

theorem KeyPart.perm_sorted (parts : List KeyPart) : (KeyPart.sorted parts).Perm parts :=
  List.mergeSort_perm ..

theorem Table.keyText_succeeds_iff (cfg : Config) {t : Table} {parts : List KeyPart} :
    Succeeds (t.keyText cfg parts) ↔ ∀ part ∈ parts, t.columns.contains part.column = true := by
  simp only [Table.keyText, Table.keyPartText, map_succeeds_iff, mapM_succeeds_iff,
    Table.columnName_succeeds_iff, (KeyPart.perm_sorted parts).mem_iff]

theorem Schema.table_eq_ok_iff {s : Schema} {id : String} {t : Table} :
    s.table id = .ok t ↔ s.get? id = some t := by
  unfold Schema.table
  cases s.get? id <;> simp

/-- The columns an index stores are those that are not in the primary key. -/
theorem Index.mem_extraColumns {i : Index} {t : Table} {id : String} :
    id ∈ i.extraColumns t ↔ id ∈ i.stored ∧ ∀ part ∈ t.primaryKey, part.column ≠ id := by
  simp [Index.extraColumns, Table.isKeyColumn]

theorem Index.storingClause_succeeds_iff {cfg : Config} {t : Table} {i : Index} :
    Succeeds (i.storingClause cfg t) ↔
      ∀ id ∈ i.extraColumns t, t.columns.contains id = true := by
  unfold Index.storingClause
  split
  · rename_i h
    simp [h]
  · rw [map_succeeds_iff, Table.columnNames_succeeds_iff]

/-! ### Statements -/

theorem Sequence.outcome_create (cfg : Config) (q : Sequence) :
    (q.create cfg).outcome = .ok (q.createText cfg) := rfl

theorem Table.outcome_bodyColumn (cfg : Config) (t : Table) (id : String) :
    (t.bodyColumn cfg id).outcome = t.column id := by
  have hreport : ∀ c : Column, (c.report cfg).outcome = .ok () := fun c => by
    unfold Column.report
    split <;> rfl
  simp only [Table.bodyColumn, Run.outcome_bind, Run.outcome_ofExcept, hreport]
  cases t.column id <;> rfl

theorem Table.outcome_create (cfg : Config) (s : Schema) (t : Table) :
    (t.create cfg s).outcome = (t.columnIds.mapM t.column).bind fun columns =>
      (t.keyText cfg t.primaryKey).map (t.createText cfg s columns) := by
  rw [Table.create, Run.outcome_emit_bind, Run.outcome_bind, Run.outcome_each]
  simp only [Run.outcome_bind_pure, Run.outcome_ofExcept, Table.outcome_bodyColumn]

theorem Index.outcome_create (cfg : Config) (t : Table) (i : Index) :
    (i.create cfg t).outcome = (t.keyText cfg i.keys).bind fun keys =>
      (i.storingClause cfg t).map (i.createText cfg t keys) := by
  rw [Index.create, Run.outcome_emit_bind, Run.outcome_bind]
  simp only [Run.outcome_bind_pure, Run.outcome_ofExcept]

theorem ForeignKey.constraint_of_even {cfg : Config} {s : Schema} {t : Table} {k : ForeignKey}
    (h : k.columns.length = k.targetColumns.length) :
    k.constraint cfg s t = (s.table k.targetTable).bind fun target =>
      (t.columnNames cfg k.columns).bind fun columns =>
        (target.columnNames cfg k.targetColumns).map (k.constraintText cfg target columns) := by
  unfold ForeignKey.constraint
  rw [if_neg (not_not.mpr h)]
  show Except.bind _ _ = _
  congr 1

theorem ForeignKey.constraint_of_uneven {cfg : Config} {s : Schema} {t : Table} {k : ForeignKey}
    (h : k.columns.length ≠ k.targetColumns.length) :
    k.constraint cfg s t =
      .error (.unevenForeignKey t.name k.title k.columns.length k.targetColumns.length) := by
  unfold ForeignKey.constraint
  rw [if_pos h]
  rfl

theorem ForeignKey.outcome_add (cfg : Config) (s : Schema) (t : Table) (k : ForeignKey) :
    (k.add cfg s t).outcome =
      (k.constraint cfg s t).map ("ALTER TABLE " ++ cfg.quote t.name ++ " ADD " ++ ·) := by
  rw [ForeignKey.add, Run.outcome_emit_bind, Run.outcome_bind_pure, Run.outcome_ofExcept]

/-! ### What a statement reads that could be written -/

theorem Table.create_eq_ok_iff {cfg : Config} {s : Schema} {t : Table} {text : String} :
    (t.create cfg s).outcome = .ok text ↔
      ∃ columns keys, t.columnIds.mapM t.column = .ok columns ∧
        t.keyText cfg t.primaryKey = .ok keys ∧ t.createText cfg s columns keys = text := by
  simp only [Table.outcome_create, bind_eq_ok_iff, map_eq_ok_iff, exists_and_left]

theorem Index.create_eq_ok_iff {cfg : Config} {t : Table} {i : Index} {text : String} :
    (i.create cfg t).outcome = .ok text ↔
      ∃ keys storing, t.keyText cfg i.keys = .ok keys ∧ i.storingClause cfg t = .ok storing ∧
        i.createText cfg t keys storing = text := by
  simp only [Index.outcome_create, bind_eq_ok_iff, map_eq_ok_iff, exists_and_left]

theorem ForeignKey.add_eq_ok_iff {cfg : Config} {s : Schema} {t : Table} {k : ForeignKey}
    {text : String} :
    (k.add cfg s t).outcome = .ok text ↔
      k.columns.length = k.targetColumns.length ∧
        ∃ target columns targets, s.get? k.targetTable = some target ∧
          t.columnNames cfg k.columns = .ok columns ∧
            target.columnNames cfg k.targetColumns = .ok targets ∧
              "ALTER TABLE " ++ cfg.quote t.name ++ " ADD " ++
                k.constraintText cfg target columns targets = text := by
  rw [ForeignKey.outcome_add]
  by_cases h : k.columns.length = k.targetColumns.length
  · simp only [ForeignKey.constraint_of_even h, map_eq_ok_iff, bind_eq_ok_iff,
      Schema.table_eq_ok_iff, h, true_and]
    constructor
    · intro h
      obtain ⟨_, ⟨target, htarget, columns, hcolumns, targets, htargets, rfl⟩, rfl⟩ := h
      exact ⟨target, columns, targets, htarget, hcolumns, htargets, rfl⟩
    · intro h
      obtain ⟨target, columns, targets, htarget, hcolumns, htargets, rfl⟩ := h
      exact ⟨_, ⟨target, htarget, columns, hcolumns, targets, htargets, rfl⟩, rfl⟩
  · simp [ForeignKey.constraint_of_uneven h, map_eq_ok_iff, h]

/-! ### When a statement can be written -/

theorem Table.create_succeeds_iff {cfg : Config} {s : Schema} {t : Table} :
    Succeeds (t.create cfg s).outcome ↔
      (∀ id ∈ t.columnIds, t.columns.contains id = true) ∧
        ∀ part ∈ t.primaryKey, t.columns.contains part.column = true := by
  simp only [Table.outcome_create, bind_succeeds_iff, map_succeeds_iff, exists_and_right]
  rw [← Table.keyText_succeeds_iff cfg]
  refine and_congr ?_ Iff.rfl
  show Succeeds _ ↔ _
  simp only [mapM_succeeds_iff, Table.column_succeeds_iff]

theorem Index.create_succeeds_iff {cfg : Config} {t : Table} {i : Index} :
    Succeeds (i.create cfg t).outcome ↔
      (∀ part ∈ i.keys, t.columns.contains part.column = true) ∧
        ∀ id ∈ i.extraColumns t, t.columns.contains id = true := by
  simp only [Index.outcome_create, bind_succeeds_iff, map_succeeds_iff, exists_and_right]
  rw [← Table.keyText_succeeds_iff cfg, Index.storingClause_succeeds_iff]
  exact Iff.rfl

theorem ForeignKey.add_succeeds_iff {cfg : Config} {s : Schema} {t : Table} {k : ForeignKey} :
    Succeeds (k.add cfg s t).outcome ↔
      k.columns.length = k.targetColumns.length ∧ ∃ target, s.get? k.targetTable = some target ∧
        (∀ id ∈ k.columns, t.columns.contains id = true) ∧
          ∀ id ∈ k.targetColumns, target.columns.contains id = true := by
  rw [ForeignKey.outcome_add, map_succeeds_iff]
  by_cases h : k.columns.length = k.targetColumns.length
  · simp only [ForeignKey.constraint_of_even h, bind_succeeds_iff, map_succeeds_iff,
      Schema.table_eq_ok_iff, Table.columnNames_succeeds_iff, exists_and_right, h, true_and]
    refine exists_congr fun target => and_congr Iff.rfl (and_congr ?_ Iff.rfl)
    exact Table.columnNames_succeeds_iff
  · simp [ForeignKey.constraint_of_uneven h, h]

end SchemaScript
