import SchemaScript.Proofs.DefinitionBeforeUse
import SchemaScript.Proofs.Determinism
import SchemaScript.Proofs.Embedding
import SchemaScript.Proofs.Texts
import Mathlib.Logic.Embedding.Basic
import Mathlib.Logic.Equiv.Basic

/-! Ids under other names.

Keys and column ids tie a schema together and never show in its script. A `Renaming` gives each key
another one and each column of each table another id; `Schema.renamed` carries it through everything
that mentions one. Each lookup in the renamed schema finds what the lookup under the old name found,
so each statement has the text it had (`Subject.write_renamed`), and the renaming embeds the schema
if names alone decide the order of tables (`Renaming.embeds`). The script is the same, then, unless it
fails (`renaming_is_invisible`): faults do name ids. -/
namespace SchemaScript

variable {α : Type}

/-! ### Renamed schemas -/

/-- Other ids, different ones for different ids. The empty key, which leads nowhere, stays empty. -/
structure Renaming where
  key : String ↪ String
  key_empty : key "" = ""
  /-- The column ids of the table under a key, as it was before. -/
  column : String → String ↪ String

/-- The map with other keys. -/
def Keyed.rekeyed (f : String ↪ String) (m : Keyed α) : Keyed α where
  entries := m.entries.map (Prod.map f id)
  distinct := by
    have hkeys : (m.entries.map (Prod.map f id)).map Prod.fst = m.keys.map f := by
      rw [List.map_map, keys, List.map_map]
      rfl
    rw [hkeys]
    exact m.distinct.map f.injective

def KeyPart.renamed (f : String → String) (p : KeyPart) : KeyPart := { p with column := f p.column }

def Index.renamed (f : String → String) (i : Index) : Index :=
  { i with keys := i.keys.map (KeyPart.renamed f), stored := i.stored.map f }

/-- The foreign key of the table under `key`. Its two lists belong to two tables. -/
def ForeignKey.renamed (r : Renaming) (key : String) (k : ForeignKey) : ForeignKey :=
  { k with
    columns := k.columns.map (r.column key)
    targetTable := r.key k.targetTable
    targetColumns := k.targetColumns.map (r.column k.targetTable) }

def Parent.renamed (r : Renaming) (p : Parent) : Parent := { p with id := r.key p.id }

/-- The table under `key`. -/
def Table.renamed (r : Renaming) (key : String) (t : Table) : Table :=
  { t with
    columnIds := t.columnIds.map (r.column key)
    columns := t.columns.rekeyed (r.column key)
    primaryKey := t.primaryKey.map (KeyPart.renamed (r.column key))
    foreignKeys := t.foreignKeys.map (ForeignKey.renamed r key)
    indexes := t.indexes.map (Index.renamed (r.column key))
    parent := t.parent.map (Parent.renamed r) }

def Renaming.entry (r : Renaming) (e : String × Table) : String × Table :=
  (r.key e.1, e.2.renamed r e.1)

def Schema.renamed (r : Renaming) (s : Schema) : Schema where
  tables := {
    entries := s.entries.map r.entry
    distinct := by
      show ((s.entries.map r.entry).map Prod.fst).Nodup
      have hkeys : (s.entries.map r.entry).map Prod.fst = s.ids.map r.key := by
        rw [List.map_map, Schema.ids, Keyed.keys, List.map_map]
        rfl
      rw [hkeys]
      exact s.tables.distinct.map r.key.injective }

def Subject.renamed (r : Renaming) : Subject → Subject
  | sequence q => sequence q
  | table key t => table (r.key key) (t.renamed r key)
  | index key t i => index (r.key key) (t.renamed r key) (i.renamed (r.column key))
  | foreignKey key t k => foreignKey (r.key key) (t.renamed r key) (k.renamed r key)

variable {cfg : Config} {s : Schema} (r : Renaming)

/-! ### Lookups under new names -/

theorem Keyed.get?_rekeyed (m : Keyed α) (f : String ↪ String) (key : String) :
    (m.rekeyed f).get? (f key) = m.get? key := by
  refine Option.ext fun a => ?_
  rw [get?_eq_some_iff, get?_eq_some_iff, rekeyed, List.mem_map]
  constructor
  · intro h
    obtain ⟨e, he, heq⟩ := h
    obtain ⟨hkey, rfl⟩ := Prod.mk.inj heq
    rw [← f.injective hkey]
    exact he
  · intro h
    exact ⟨_, h, rfl⟩

theorem Schema.get?_renamed (s : Schema) (id : String) :
    (s.renamed r).get? (r.key id) = (s.get? id).map (Table.renamed r id) := by
  refine Option.ext fun t => ?_
  rw [Option.map_eq_some_iff, Schema.get?_eq_some_iff]
  simp only [Schema.get?_eq_some_iff]
  show (r.key id, t) ∈ s.entries.map r.entry ↔ _
  rw [List.mem_map]
  constructor
  · intro h
    obtain ⟨e, he, heq⟩ := h
    obtain ⟨hkey, htable⟩ := Prod.mk.inj heq
    cases r.key.injective hkey
    exact ⟨e.2, he, htable⟩
  · intro h
    obtain ⟨u, hu, rfl⟩ := h
    exact ⟨_, hu, rfl⟩

theorem Schema.table_renamed (s : Schema) (id : String) :
    ((s.renamed r).table (r.key id)).toOption = (s.table id).toOption.map (Table.renamed r id) := by
  unfold Schema.table
  rw [Schema.get?_renamed]
  cases s.get? id <;> rfl

theorem Table.parentId?_renamed (key : String) (t : Table) :
    (t.renamed r key).parentId? = t.parentId?.map r.key := by
  show Text.given? ((t.parent.map (Parent.renamed r)).map Parent.id) = _
  unfold Table.parentId?
  cases t.parent with
  | none => rfl
  | some p =>
    show Text.given? (some (r.key p.id)) = (Text.given? (some p.id)).map r.key
    by_cases h : p.id = ""
    · rw [h, r.key_empty]
      rfl
    · have hkey : r.key p.id ≠ "" := fun heq => h (r.key.injective (heq.trans r.key_empty.symm))
      rw [Text.given?_some _ h, Text.given?_some _ hkey]
      rfl

/-- Parents are found under their new keys, and what was not there still is not. -/
theorem Schema.parentOf?_renamed (s : Schema) (key : String) (t : Table) :
    (s.renamed r).parentOf? (t.renamed r key) = (s.parentOf? t).map r.entry := by
  unfold Schema.parentOf?
  rw [Table.parentId?_renamed]
  cases t.parentId? with
  | none => rfl
  | some id =>
    show ((s.renamed r).get? (r.key id)).map _ = ((s.get? id).map _).map r.entry
    rw [Schema.get?_renamed]
    cases s.get? id <;> rfl

/-! ### Texts under new names -/

namespace Table
variable (key : String) (t : Table)

theorem column_renamed (id : String) :
    ((t.renamed r key).column (r.column key id)).toOption = (t.column id).toOption := by
  have hget : (t.renamed r key).columns.get? (r.column key id) = t.columns.get? id :=
    t.columns.get?_rekeyed (r.column key) id
  unfold column
  rw [hget]
  cases t.columns.get? id <;> rfl

theorem columnName_renamed (id : String) :
    ((t.renamed r key).columnName cfg (r.column key id)).toOption =
      (t.columnName cfg id).toOption := by
  rw [columnName, columnName, toOption_map, toOption_map, column_renamed]

theorem columnNames_renamed (ids : List String) :
    ((t.renamed r key).columnNames cfg (ids.map (r.column key))).toOption =
      (t.columnNames cfg ids).toOption := by
  rw [columnNames, columnNames, toOption_map, toOption_map,
    toOption_mapM_map (columnName_renamed r key t)]

theorem keyText_renamed (parts : List KeyPart) :
    ((t.renamed r key).keyText cfg (parts.map (KeyPart.renamed (r.column key)))).toOption =
      (t.keyText cfg parts).toOption := by
  have hsorted : KeyPart.sorted (parts.map (KeyPart.renamed (r.column key))) =
      (KeyPart.sorted parts).map (KeyPart.renamed (r.column key)) :=
    (List.map_mergeSort (f := KeyPart.renamed (r.column key)) fun _ _ _ _ => rfl).symm
  have hpart (part : KeyPart) :
      ((t.renamed r key).keyPartText cfg (part.renamed (r.column key))).toOption =
        (t.keyPartText cfg part).toOption := by
    rw [keyPartText, keyPartText, toOption_map, toOption_map]
    exact congrArg (Option.map _) (columnName_renamed r key t part.column)
  rw [keyText, keyText, toOption_map, toOption_map, hsorted, toOption_mapM_map hpart]

theorem interleavingText_renamed :
    (t.renamed r key).interleavingText cfg (s.renamed r) = t.interleavingText cfg s := by
  have hparent : (t.renamed r key).parent = t.parent.map (Parent.renamed r) := rfl
  unfold interleavingText
  rw [Schema.parentOf?_renamed, hparent]
  cases t.parent with
  | none => rfl
  | some p => cases s.parentOf? t <;> rfl

theorem create_renamed :
    ((t.renamed r key).create cfg (s.renamed r)).outcome.toOption =
      (t.create cfg s).outcome.toOption := by
  have hcolumns : ((t.renamed r key).columnIds.mapM (t.renamed r key).column).toOption =
      (t.columnIds.mapM t.column).toOption := toOption_mapM_map (column_renamed r key t) _
  have hkey : ((t.renamed r key).keyText cfg (t.renamed r key).primaryKey).toOption =
      (t.keyText cfg t.primaryKey).toOption := keyText_renamed r key t _
  have htext (columns : List Column) :
      (t.renamed r key).createText cfg (s.renamed r) columns = t.createText cfg s columns := by
    funext keys
    rw [createText, createText, interleavingText_renamed]
    rfl
  rw [outcome_create, outcome_create, toOption_bind, toOption_bind, hcolumns]
  simp only [toOption_map, hkey, htext]

theorem isKeyColumn_renamed (id : String) :
    (t.renamed r key).isKeyColumn (r.column key id) = t.isKeyColumn id := by
  show (t.primaryKey.map (KeyPart.renamed (r.column key))).any _ = _
  rw [List.any_map]
  refine congrArg t.primaryKey.any (funext fun part => ?_)
  show (r.column key part.column == r.column key id) = (part.column == id)
  rw [Bool.eq_iff_iff, beq_iff_eq, beq_iff_eq]
  exact (r.column key).injective.eq_iff

end Table

namespace Index
variable (key : String) (t : Table) (i : Index)

theorem extraColumns_renamed :
    (i.renamed (r.column key)).extraColumns (t.renamed r key) =
      (i.extraColumns t).map (r.column key) := by
  show (i.stored.map (r.column key)).filter _ = _
  rw [List.filter_map]
  refine congrArg (List.map _) (congrArg (fun p => List.filter p i.stored) (funext fun id => ?_))
  exact congrArg (! ·) (t.isKeyColumn_renamed r key id)

theorem storingClause_renamed :
    ((i.renamed (r.column key)).storingClause cfg (t.renamed r key)).toOption =
      (i.storingClause cfg t).toOption := by
  unfold storingClause
  rw [extraColumns_renamed]
  cases i.extraColumns t with
  | nil => rfl
  | cons id ids =>
    show (((t.renamed r key).columnNames cfg ((id :: ids).map (r.column key))).map _).toOption = _
    rw [toOption_map, toOption_map, t.columnNames_renamed r key]

theorem create_renamed :
    ((i.renamed (r.column key)).create cfg (t.renamed r key)).outcome.toOption =
      (i.create cfg t).outcome.toOption := by
  have hkeys : ((t.renamed r key).keyText cfg (i.renamed (r.column key)).keys).toOption =
      (t.keyText cfg i.keys).toOption := t.keyText_renamed r key _
  rw [outcome_create, outcome_create, toOption_bind, toOption_bind, hkeys]
  simp only [toOption_map, storingClause_renamed]
  rfl

end Index

/-- A foreign key finds its columns in two tables, which may be renamed in different ways. -/
theorem ForeignKey.constraint_renamed (key : String) (t : Table) (k : ForeignKey) :
    ((k.renamed r key).constraint cfg (s.renamed r) (t.renamed r key)).toOption =
      (k.constraint cfg s t).toOption := by
  have hlength : (k.renamed r key).columns.length = k.columns.length := List.length_map ..
  have hlength' : (k.renamed r key).targetColumns.length = k.targetColumns.length :=
    List.length_map ..
  by_cases h : k.columns.length = k.targetColumns.length
  · have htable : ((s.renamed r).table (k.renamed r key).targetTable).toOption =
        (s.table k.targetTable).toOption.map (Table.renamed r k.targetTable) :=
      s.table_renamed r k.targetTable
    have hcolumns : ((t.renamed r key).columnNames cfg (k.renamed r key).columns).toOption =
        (t.columnNames cfg k.columns).toOption := t.columnNames_renamed r key _
    have htargets (target : Table) :
        ((target.renamed r k.targetTable).columnNames cfg (k.renamed r key).targetColumns).toOption =
          (target.columnNames cfg k.targetColumns).toOption := target.columnNames_renamed r _ _
    rw [constraint_of_even h, constraint_of_even (by rw [hlength, hlength', h])]
    simp only [toOption_bind, toOption_map, htable, hcolumns, Option.bind_map, Function.comp_def,
      htargets]
    rfl
  · rw [constraint_of_uneven h, constraint_of_uneven (by rwa [hlength, hlength'])]
    rfl

theorem ForeignKey.add_renamed (key : String) (t : Table) (k : ForeignKey) :
    ((k.renamed r key).add cfg (s.renamed r) (t.renamed r key)).outcome.toOption =
      (k.add cfg s t).outcome.toOption := by
  rw [outcome_add, outcome_add, toOption_map, toOption_map, constraint_renamed]
  rfl

/-- **A statement reads the same under new names**, and can be written under them if it could. -/
theorem Subject.write_renamed (x : Subject) :
    ((x.renamed r).write cfg (s.renamed r)).outcome.toOption = (x.write cfg s).outcome.toOption := by
  cases x with
  | sequence q => rfl
  | table key t => exact t.create_renamed r key
  | index key t i => exact i.create_renamed r key t
  | foreignKey key t k => exact k.add_renamed r key t

/-! ### The order of tables -/

/-- Whether tables differ in name, so that names alone decide their order. -/
def Schema.NamesDiffer (s : Schema) : Prop := (s.tables.values.map Table.name).Nodup

instance (s : Schema) : Decidable s.NamesDiffer :=
  inferInstanceAs (Decidable (s.tables.values.map Table.name).Nodup)

variable {r}

theorem Schema.NamesDiffer.eq_of_name_eq (h : s.NamesDiffer) {a b : String × Table}
    (ha : a ∈ s.entries) (hb : b ∈ s.entries) (hname : a.2.name = b.2.name) : a = b := by
  have hnames : (s.entries.map fun e => e.2.name).Nodup := by
    rw [Schema.NamesDiffer, Keyed.values, List.map_map] at h
    exact h
  exact List.inj_on_of_nodup_map hnames ha hb hname

theorem Renaming.embeds (hnames : s.NamesDiffer) (r : Renaming) :
    Schema.Embeds r.entry s (s.renamed r) where
  mem e he := List.mem_map_of_mem he
  parent e _ := s.parentOf?_renamed r e.1 e.2
  names a ha b hb := by
    by_cases hname : a.2.name = b.2.name
    · have hrefl (e : String × Table) : Schema.before e e = true :=
        (Schema.before_iff e e).mpr (le_refl _)
      rw [hnames.eq_of_name_eq ha hb hname, hrefl, hrefl]
    · show (decide (a.2.name < b.2.name) || (a.2.name == b.2.name && _)) =
        (decide (a.2.name < b.2.name) || (a.2.name == b.2.name && _))
      rw [beq_false_of_ne hname, Bool.false_and, Bool.false_and]

namespace Schema

theorem chainsEnd_renamed_iff (hnames : s.NamesDiffer) : (s.renamed r).ChainsEnd ↔ s.ChainsEnd := by
  have hembeds := r.embeds hnames
  refine ⟨hembeds.chainsEnd, fun hs e' he' => ?_⟩
  obtain ⟨e, he, rfl⟩ := List.mem_map.mp he'
  exact (hembeds.chainEnds_image_iff he).mpr (hs e he)

theorem placedOrder_renamed (hnames : s.NamesDiffer) (hs : s.ChainsEnd) :
    (s.renamed r).placedOrder = s.placedOrder.map r.entry := by
  have horder := (r.embeds hnames).map_placedOrder ((chainsEnd_renamed_iff hnames).mpr hs)
    (fun _ => true) (by rw [List.filter_true]; rfl)
  rw [horder, List.filter_true]

/-- **The tables come in the same order**, if they can be put in order. -/
theorem inOrder_renamed (hnames : s.NamesDiffer) :
    (s.renamed r).inOrder.toOption = s.inOrder.toOption.map (List.map r.entry) := by
  refine Option.ext fun order => ?_
  simp only [Option.map_eq_some_iff, toOption_eq_some_iff, inOrder_eq_ok_iff,
    chainsEnd_renamed_iff hnames]
  constructor
  · intro h
    obtain ⟨hs, rfl⟩ := h
    exact ⟨_, ⟨hs, rfl⟩, (placedOrder_renamed hnames hs).symm⟩
  · intro h
    obtain ⟨_, ⟨hs, rfl⟩, rfl⟩ := h
    exact ⟨hs, (placedOrder_renamed hnames hs).symm⟩

end Schema

/-! ### Scripts -/

namespace Script

variable {sequences : Keyed Sequence}

theorem sequenceSubjects_renamed (r : Renaming) (sequences : Keyed Sequence) :
    (sequenceSubjects sequences).map (Subject.renamed r) = sequenceSubjects sequences := by
  rw [sequenceSubjects, List.map_map]
  rfl

theorem orderedSubjects_renamed (r : Renaming) (cfg : Config) (order : List (String × Table)) :
    orderedSubjects cfg (order.map r.entry) =
      (orderedSubjects cfg order).map (Subject.renamed r) := by
  have htables (e : String × Table) :
      tableSubjects (r.entry e) = (tableSubjects e).map (Subject.renamed r) := by
    show _ :: List.map _ (List.map _ _) = _ :: List.map _ (List.map _ _)
    rw [List.map_map, List.map_map]
    rfl
  have hkeys (e : String × Table) :
      foreignKeySubjects (r.entry e) = (foreignKeySubjects e).map (Subject.renamed r) := by
    show List.map _ (List.map _ _) = List.map _ (List.map _ _)
    rw [List.map_map, List.map_map]
    rfl
  unfold orderedSubjects
  simp only [List.flatMap_map, htables, hkeys, List.map_append, apply_ite (List.map _),
    List.map_flatMap, List.map_nil]

/-- The script of the renamed schema reads like that of the schema, if there is one. -/
theorem texts_renamed (hnames : s.NamesDiffer) (r : Renaming) (cfg : Config)
    (sequences : Keyed Sequence) :
    (texts cfg (s.renamed r) sequences).toOption = (texts cfg s sequences).toOption := by
  simp only [texts_eq, toOption_bind, Schema.inOrder_renamed hnames, Option.bind_map]
  refine congrArg (Option.bind _) (funext fun order => ?_)
  have hsubjects : sequenceSubjects sequences ++ orderedSubjects cfg (order.map r.entry) =
      (sequenceSubjects sequences ++ orderedSubjects cfg order).map (Subject.renamed r) := by
    rw [orderedSubjects_renamed, List.map_append, sequenceSubjects_renamed]
  rw [Function.comp_apply, hsubjects]
  refine toOption_mapM_map (fun x => ?_) _
  exact x.write_renamed r

end Script

/-- **Ids do not show in a script.** If tables differ in name, any renaming of their keys and of the
columns of each table leaves a script as it is, and makes none where there was none, however the maps
of the renamed schema are enumerated. -/
theorem renaming_is_invisible (cfg : Config) (s : Schema) (sequences : Keyed Sequence)
    (hnames : s.NamesDiffer) (r : Renaming) (s' : Schema) (hs' : (s.renamed r).Reorders s')
    (texts : List String) :
    Script.texts cfg s' sequences = .ok texts ↔ Script.texts cfg s sequences = .ok texts := by
  rw [← toOption_eq_some_iff, ← toOption_eq_some_iff, ← Script.texts_eq_of_reorders hs',
    Script.texts_renamed hnames]

/-- Two keys trade places, and in each table the column `c1` trades places with one named like the
key. -/
def Renaming.trade : Renaming where
  key := (Equiv.swap "t1" "t2").toEmbedding
  key_empty := by decide
  column key := (Equiv.swap "c1" key).toEmbedding

theorem renaming_is_invisible_albums :
    Schema.albums.NamesDiffer ∧ (Schema.albums.renamed .trade).ids = ["t2", "t1"] ∧
      (Schema.albums.renamed .trade).Reorders (Schema.albums.renamed .trade) ∧
        ∃ texts, Script.texts {} Schema.albums ∅ = .ok texts ∧
          Script.texts {} (Schema.albums.renamed .trade) ∅ = .ok texts := by
  have hnames : Schema.albums.NamesDiffer := by decide
  obtain ⟨texts, htexts⟩ := map_succeeds_iff.mpr exists_script_albums
  exact ⟨hnames, by decide, .refl _, texts, htexts,
    (renaming_is_invisible {} Schema.albums ∅ hnames .trade _ (.refl _) texts).mpr htexts⟩

end SchemaScript
