import SchemaScript.Proofs.Subjects

/-! When a schema can be written.

A table needs the columns it mentions itself (`Table.DefinesColumns`), a foreign key needs the columns of
two tables (`ForeignKey.Resolves`). `texts_succeeds_iff` says that this, of what is to be written, and
chains that end are all that a script needs. Sequences, names, comments, the dialect, the table an
index names and a parent that is not there cannot make it fail. -/
namespace SchemaScript

/-- The columns that a table, its key and its indexes mention are defined. Columns that an index is
asked to store count only if they are not in the primary key. -/
structure Table.DefinesColumns (t : Table) : Prop where
  body : ∀ id ∈ t.columnIds, t.columns.contains id = true
  key : ∀ part ∈ t.primaryKey, t.columns.contains part.column = true
  indexKeys : ∀ i ∈ t.indexes, ∀ part ∈ i.keys, t.columns.contains part.column = true
  stored : ∀ i ∈ t.indexes, ∀ id ∈ i.stored, (∀ part ∈ t.primaryKey, part.column ≠ id) →
    t.columns.contains id = true

/-- A foreign key pairs columns of its table with columns of a table that is there. -/
structure ForeignKey.Resolves (s : Schema) (t : Table) (k : ForeignKey) : Prop where
  even : k.columns.length = k.targetColumns.length
  columns : ∀ id ∈ k.columns, t.columns.contains id = true
  target : ∃ target, s.get? k.targetTable = some target ∧
    ∀ id ∈ k.targetColumns, target.columns.contains id = true

instance (t : Table) : Decidable t.DefinesColumns :=
  decidable_of_iff
    ((∀ id ∈ t.columnIds, t.columns.contains id = true) ∧
      (∀ part ∈ t.primaryKey, t.columns.contains part.column = true) ∧
      (∀ i ∈ t.indexes, ∀ part ∈ i.keys, t.columns.contains part.column = true) ∧
      ∀ i ∈ t.indexes, ∀ id ∈ i.stored, (∀ part ∈ t.primaryKey, part.column ≠ id) →
        t.columns.contains id = true)
    ⟨fun h => ⟨h.1, h.2.1, h.2.2.1, h.2.2.2⟩, fun h => ⟨h.body, h.key, h.indexKeys, h.stored⟩⟩

instance (s : Schema) (t : Table) (k : ForeignKey) : Decidable (k.Resolves s t) :=
  decidable_of_iff
    (k.columns.length = k.targetColumns.length ∧
      (∀ id ∈ k.columns, t.columns.contains id = true) ∧
      ∃ target ∈ s.get? k.targetTable, ∀ id ∈ k.targetColumns, target.columns.contains id = true)
    ⟨fun h => ⟨h.1, h.2.1, h.2.2⟩, fun h => ⟨h.even, h.columns, h.target⟩⟩

variable {cfg : Config} {s : Schema} {sequences : Keyed Sequence}

/-- A table and its indexes can be written exactly if the columns they mention are defined. -/
theorem Table.definesColumns_iff (cfg : Config) (s : Schema) (t : Table) :
    t.DefinesColumns ↔
      Succeeds (t.create cfg s).outcome ∧ ∀ i ∈ t.indexes, Succeeds (i.create cfg t).outcome := by
  simp only [Table.create_succeeds_iff, Index.create_succeeds_iff, Index.mem_extraColumns]
  constructor
  · intro h
    exact ⟨⟨h.body, h.key⟩, fun i hi => ⟨h.indexKeys i hi, fun id hid => h.stored i hi id hid.1 hid.2⟩⟩
  · intro h
    obtain ⟨⟨hbody, hkey⟩, hindexes⟩ := h
    exact ⟨hbody, hkey, fun i hi => (hindexes i hi).1,
      fun i hi id hid hkey => (hindexes i hi).2 id ⟨hid, hkey⟩⟩

theorem ForeignKey.resolves_iff (cfg : Config) (s : Schema) (t : Table) (k : ForeignKey) :
    k.Resolves s t ↔ Succeeds (k.add cfg s t).outcome := by
  rw [ForeignKey.add_succeeds_iff]
  constructor
  · intro h
    obtain ⟨target, htarget, hcolumns⟩ := h.target
    exact ⟨h.even, target, htarget, h.columns, hcolumns⟩
  · intro h
    obtain ⟨heven, target, htarget, hcolumns, htargets⟩ := h
    exact ⟨heven, hcolumns, target, htarget, htargets⟩

/-- The subjects of a script can be written exactly if its tables and foreign keys resolve. -/
theorem Script.subjects_succeed_iff (hs : s.ChainsEnd) :
    (∀ x ∈ Script.subjects cfg s sequences, Succeeds (x.write cfg s).outcome) ↔
      (cfg.tables = true → ∀ e ∈ s.entries, e.2.DefinesColumns) ∧
        (cfg.foreignKeys = true → ∀ e ∈ s.entries, ∀ k ∈ e.2.foreignKeys, k.Resolves s e.2) := by
  simp only [Script.mem_subjects hs, Table.definesColumns_iff cfg s, ForeignKey.resolves_iff cfg s]
  constructor
  · intro h
    refine ⟨fun htables e he => ⟨?_, fun i hi => ?_⟩, fun hkeys e he k hk => ?_⟩
    · exact h (.table e.1 e.2) ⟨htables, he⟩
    · exact h (.index e.1 e.2 i) ⟨htables, he, hi⟩
    · exact h (.foreignKey e.1 e.2 k) ⟨hkeys, he, hk⟩
  · intro h x hx
    obtain ⟨htables, hkeys⟩ := h
    cases x with
    | sequence q => exact succeeds_ok (q.createText cfg)
    | table key t => exact (htables hx.1 _ hx.2).1
    | index key t i => exact (htables hx.1 _ hx.2.1).2 i hx.2.2
    | foreignKey key t k => exact hkeys hx.1 _ hx.2.1 k hx.2.2

/-- A schema in which everything resolves has a script, whatever parts of it are to be written. -/
theorem Script.exists_script (cfg : Config) (sequences : Keyed Sequence) (hs : s.ChainsEnd)
    (hcolumns : ∀ e ∈ s.entries, e.2.DefinesColumns)
    (hkeys : ∀ e ∈ s.entries, ∀ k ∈ e.2.foreignKeys, k.Resolves s e.2) :
    ∃ script, (Script.generate cfg s sequences).outcome = .ok script :=
  (Script.generate_succeeds_iff cfg s sequences).mpr
    ⟨hs, (Script.subjects_succeed_iff hs).mpr ⟨fun _ => hcolumns, fun _ => hkeys⟩⟩

/-- **A script can be written exactly if all chains end, the tables to be written define the columns
they mention, and the foreign keys to be written resolve.** Chains have to end even if neither tables
nor foreign keys are written; nothing else matters. -/
theorem texts_succeeds_iff (cfg : Config) (s : Schema) (sequences : Keyed Sequence) :
    (∃ texts, Script.texts cfg s sequences = .ok texts) ↔
      (∀ e ∈ s.entries, s.ChainEnds e) ∧
        (cfg.tables = true → ∀ e ∈ s.entries, e.2.DefinesColumns) ∧
          (cfg.foreignKeys = true → ∀ e ∈ s.entries, ∀ k ∈ e.2.foreignKeys, k.Resolves s e.2) := by
  show Succeeds _ ↔ s.ChainsEnd ∧ _
  rw [Script.texts, map_succeeds_iff, Script.generate_succeeds_iff]
  exact and_congr_right Script.subjects_succeed_iff

end SchemaScript
