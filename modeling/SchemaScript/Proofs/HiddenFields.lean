import SchemaScript.Proofs.Determinism

/-! Fields that are not meant to be printed.

The ids of tables, columns, indexes and checks, the update action of a foreign key, what stands behind
a default that is not present or a generator that is off, the length of a type without one, options
other than the Cassandra type, the users of a sequence and the key it is kept under, columns that
nothing refers to, and comments that are not written: none of them shows in the script or in its fault
(`hidden_fields_stay_hidden`). The id of a foreign key shows only as its name in the fault about its
numbers of columns, and only if it has no name (`Fault.SameButKeyId`). -/
namespace SchemaScript

/-! ### Edits that do not show -/

/-- Another length, if the type has none. -/
def ColumnType.HiddenEdit (t u : ColumnType) : Prop :=
  ∃ length, (t.base.hasLength = true → length = t.length) ∧ u = { t with length }

/-- Another name, if the generator is off. -/
def Generator.HiddenEdit (g h : Generator) : Prop :=
  ∃ name, (g.generation ≠ .off → name = g.name) ∧ h = { g with name }

/-- Another id of the expression, or any other expression if there is no default. -/
def DefaultValue.HiddenEdit (d e : DefaultValue) : Prop :=
  ∃ value, (d.present = true → ∃ id, value = { d.value with id }) ∧ e = { d with value }

/-- Another id, another comment if comments are not written, and other options but for the type the
column had in Cassandra. -/
def Column.HiddenEdit (cfg : Config) (c d : Column) : Prop :=
  ∃ id type generator default comment options, c.type.HiddenEdit type ∧
    c.generator.HiddenEdit generator ∧ c.default.HiddenEdit default ∧
    (cfg.comments = true → comment = c.comment) ∧
    options.get? cassandraTypeOption = c.options.get? cassandraTypeOption ∧
    d = { c with id, type, generator, default, comment, options }

def Index.HiddenEdit (i j : Index) : Prop := ∃ id tableId, j = { i with id, tableId }

def Check.HiddenEdit (k l : Check) : Prop := ∃ id, l = { k with id }

def ForeignKey.HiddenEdit (k l : ForeignKey) : Prop := ∃ onUpdate, l = { k with onUpdate }

/-- Another id as well. -/
def ForeignKey.IdEdit (k l : ForeignKey) : Prop := ∃ id onUpdate, l = { k with id, onUpdate }

/-- Another id, another comment if comments are not written, any other columns where nothing refers to
them, and hidden edits of everything else; `keys` says what may happen to foreign keys. -/
def Table.HiddenEdit (cfg : Config) (keys : ForeignKey → ForeignKey → Prop)
    (referred : String → Prop) (t u : Table) : Prop :=
  ∃ id comment columns foreignKeys indexes checks, (cfg.comments = true → comment = t.comment) ∧
    (∀ id, referred id →
      Option.Rel (Column.HiddenEdit cfg) (t.columns.get? id) (columns.get? id)) ∧
    List.Forall₂ keys t.foreignKeys foreignKeys ∧
    List.Forall₂ Index.HiddenEdit t.indexes indexes ∧
    List.Forall₂ Check.HiddenEdit t.checks checks ∧
    u = { t with id, comment, columns, foreignKeys, indexes, checks }

/-- Hidden edits of the tables, each under the key it had. -/
def Schema.HiddenEdit (cfg : Config) (keys : ForeignKey → ForeignKey → Prop) (s s' : Schema) :
    Prop :=
  ∀ key, Option.Rel (fun t u => t.HiddenEdit cfg keys (s.Refers (key, t)) u) (s.get? key)
    (s'.get? key)

/-- Other users. -/
def Sequence.HiddenEdit (q p : Sequence) : Prop := ∃ users, p = { q with users }

/-- One fault, or the fault about one foreign key without a name under the id it has on either
side. -/
def Fault.SameButKeyId (s s' : Schema) (f f' : Fault) : Prop :=
  f = f' ∨ ∃ key t u k l, s.get? key = some t ∧ s'.get? key = some u ∧
    (k, l) ∈ t.foreignKeys.zip u.foreignKeys ∧ Text.given? k.name = none ∧
    f = .unevenForeignKey t.name k.id k.columns.length k.targetColumns.length ∧
    f' = .unevenForeignKey t.name l.id k.columns.length k.targetColumns.length

variable {cfg : Config}

/-! ### Columns look as before -/

theorem ColumnType.HiddenEdit.text_eq {t u : ColumnType} (h : t.HiddenEdit u) (d : Dialect) :
    t.text d = u.text d := by
  obtain ⟨length, hlength, rfl⟩ := h
  cases hhas : t.base.hasLength with
  | true => rw [hlength hhas]
  | false =>
    have hbase : t.base ≠ .string := by
      intro hbase
      rw [hbase] at hhas
      cases hhas
    cases d with
    | googleSql => simp only [text, googleSqlText, googleSqlElement, hhas, Bool.false_eq_true, if_false]
    | postgreSql => simp only [text, postgreSqlText, hbase, if_false]

theorem Generator.HiddenEdit.clause_eq {g h : Generator} (hgh : g.HiddenEdit h) (d : Dialect) :
    generatorClause d g = generatorClause d h := by
  obtain ⟨name, hname, rfl⟩ := hgh
  by_cases hoff : g.generation = .off
  · simp [generatorClause, isUuid, hoff]
  · rw [hname hoff]

theorem DefaultValue.HiddenEdit.text?_eq {d e : DefaultValue} (h : d.HiddenEdit e) :
    d.text? = e.text? := by
  obtain ⟨value, hvalue, rfl⟩ := h
  cases hpresent : d.present with
  | false => simp [text?, hpresent]
  | true =>
    obtain ⟨id, rfl⟩ := hvalue hpresent
    simp [text?, hpresent]

theorem Column.HiddenEdit.looksLike {c d : Column} (h : c.HiddenEdit cfg d) : c.LooksLike cfg d := by
  obtain ⟨id, type, generator, default, comment, options, htype, hgenerator, hdefault, hcomment,
    hoptions, rfl⟩ := h
  refine ⟨rfl, ?_, fun hwritten => ?_⟩
  · have hbase : type.base = c.type.base := by
      obtain ⟨_, _, rfl⟩ := htype
      rfl
    simp only [text, defaultText, optionsText, cassandraType?, htype.text_eq, hgenerator.clause_eq,
      hdefault.text?_eq, hoptions, hbase]
  · rw [remark?, ← hcomment hwritten]
    rfl

/-! ### Tables look as before -/

theorem Index.HiddenEdit.looksLike {i j : Index} (h : i.HiddenEdit j) : i.LooksLike j := by
  obtain ⟨id, tableId, rfl⟩ := h
  exact ⟨rfl, rfl, rfl, rfl⟩

theorem ForeignKey.IdEdit.looksLike {k l : ForeignKey} (h : k.IdEdit l) : k.LooksLike l := by
  obtain ⟨id, onUpdate, rfl⟩ := h
  exact ⟨rfl, rfl, rfl, rfl, rfl⟩

theorem ForeignKey.HiddenEdit.idEdit {k l : ForeignKey} (h : k.HiddenEdit l) : k.IdEdit l := by
  obtain ⟨onUpdate, rfl⟩ := h
  exact ⟨k.id, onUpdate, rfl⟩

variable {keys : ForeignKey → ForeignKey → Prop} {s s' : Schema} {t u : Table}

theorem Table.HiddenEdit.looksLike {referred : String → Prop}
    (hkeys : ∀ k l, keys k l → ForeignKey.IdEdit k l) (h : t.HiddenEdit cfg keys referred u) :
    t.LooksLike cfg referred u := by
  obtain ⟨id, comment, columns, foreignKeys, indexes, checks, hcomment, hcolumns, hforeignKeys,
    hindexes, hchecks, rfl⟩ := h
  have hbanner : t.banner cfg = ({ t with comment } : Table).banner cfg := by
    cases hwritten : cfg.comments with
    | true => rw [hcomment hwritten]
    | false => rw [banner_without_comments hwritten, banner_without_comments hwritten]
  exact {
    name := rfl
    banner := hbanner
    columnIds := rfl
    columns := fun id hid => rel_imp (hcolumns id hid) fun _ _ hcd => hcd.looksLike
    primaryKey := rfl
    checks := map_eq_of_forall₂ hchecks fun k l hkl => by
      obtain ⟨id, rfl⟩ := hkl
      rfl
    indexes := hindexes.imp fun _ _ hij => hij.looksLike
    foreignKeys := hforeignKeys.imp fun k l hkl => (hkeys k l hkl).looksLike
    parentId := rfl
    clause := fun _ _ => rfl }

theorem Schema.HiddenEdit.looksLike (hkeys : ∀ k l, keys k l → ForeignKey.IdEdit k l)
    (h : s.HiddenEdit cfg keys s') : s.LooksLike cfg s' := fun key =>
  rel_imp (h key) fun _ _ htu => htu.looksLike hkeys

/-- The foreign keys in the same place of two tables under one key. -/
theorem Schema.HiddenEdit.keys_of_mem_zip (h : s.HiddenEdit cfg keys s') {e : String × Table}
    (he : e ∈ s.entries) {k l : ForeignKey}
    (hkl : (k, l) ∈ e.2.foreignKeys.zip (s'.counterpart e).2.foreignKeys) : keys k l := by
  obtain ⟨_, _, _, _, _, _, _, _, hkeys, _, _, htable⟩ := (counterpart_of_rel (h e.1) he).2
  rw [htable] at hkl
  exact List.forall₂_zip hkeys hkl

/-! ### Scripts are as before -/

theorem Sequence.HiddenEdit.writtenAlike (cfg : Config) : WrittenAlike cfg HiddenEdit where
  place q p h := by
    obtain ⟨users, rfl⟩ := h
    rfl
  text q p h := by
    obtain ⟨users, rfl⟩ := h
    rfl

theorem Schema.HiddenEdit.relates (h : s.HiddenEdit cfg ForeignKey.IdEdit s') :
    s.Relates (Fault.SameButKeyId s s') s' where
  refl _ := .inl rfl
  uneven e he k l hkl _ := by
    obtain ⟨id, onUpdate, hl⟩ := h.keys_of_mem_zip he hkl
    cases hname : Text.given? k.name with
    | some name =>
      have htitle : k.title = l.title := by
        rw [hl, ForeignKey.title, ForeignKey.title, hname, Option.getD_some, Option.getD_some]
      exact .inl (by rw [htitle])
    | none =>
      have hmem := (h.looksLike fun _ _ hkl => hkl).counterpart_spec he
      refine .inr ⟨e.1, e.2, _, k, l, s.get?_eq_some_iff.mpr he,
        s'.get?_eq_some_iff.mpr hmem.1, hkl, hname, ?_, ?_⟩
      · rw [ForeignKey.title, hname, Option.getD_none]
      · rw [ForeignKey.title, hl, hname, Option.getD_none]

open Script in
/-- **Fields that are not printed do not show.** Two inputs that differ in nothing else have the same
script or the same fault. If the ids of foreign keys differ as well, so may the name in a fault about
the columns of one that has no name. -/
theorem hidden_fields_stay_hidden (cfg : Config) {sequences sequences' : Keyed Sequence}
    (hsequences : Sequence.Alike Sequence.HiddenEdit sequences sequences') :
    (∀ s s' : Schema, s.HiddenEdit cfg ForeignKey.HiddenEdit s' →
      texts cfg s sequences = texts cfg s' sequences') ∧
    ∀ s s' : Schema, s.HiddenEdit cfg ForeignKey.IdEdit s' →
      SameUpTo (Fault.SameButKeyId s s') (texts cfg s sequences) (texts cfg s' sequences') := by
  constructor
  · intro s s' hs
    refine texts_eq_of_looksLike (hs.looksLike fun _ _ => ForeignKey.HiddenEdit.idEdit) ?_
      (Sequence.HiddenEdit.writtenAlike cfg) hsequences
    intro e he k l hkl
    obtain ⟨onUpdate, rfl⟩ := hs.keys_of_mem_zip he hkl
    rfl
  · intro s s' hs
    exact texts_sameUpTo (hs.looksLike fun _ _ hkl => hkl) (Schema.HiddenEdit.relates hs)
      (Sequence.HiddenEdit.writtenAlike cfg) hsequences

/-! ### Two drafts -/

/-- A table with a foreign key that has no name and one column too many. -/
def Table.draft : Table :=
  { (named "t1" "Singers").withColumn { id := "c1", name := "Id", type := .ofBase .int64 } with
    foreignKeys := [{ ForeignKey.toTable "k1" "t1" with columns := ["c1"] }] }

/-- The draft with ids of its own, a comment, and a length for a type that has none. -/
def Table.redraft (keyId : String) : Table :=
  { draft with
    id := "t9"
    comment := some "To be reviewed"
    columns := Keyed.ofList [("c1", { id := "c9", name := "Id", type := ⟨.int64, .limit 8, false⟩ })]
    foreignKeys := [{ ForeignKey.toTable keyId "t1" with columns := ["c1"] }] }

def Schema.drafted : Schema := { tables := Keyed.ofList [("t1", Table.draft)] }

def Schema.redrafted (keyId : String) : Schema :=
  { tables := Keyed.ofList [("t1", Table.redraft keyId)] }

theorem Schema.hiddenEdit_redrafted {keys : ForeignKey → ForeignKey → Prop} {keyId : String}
    (h : keys { ForeignKey.toTable "k1" "t1" with columns := ["c1"] }
      { ForeignKey.toTable keyId "t1" with columns := ["c1"] }) :
    drafted.HiddenEdit {} keys (redrafted keyId) := by
  have hcolumn : Column.HiddenEdit {} { id := "c1", name := "Id", type := .ofBase .int64 }
      { id := "c9", name := "Id", type := ⟨.int64, .limit 8, false⟩ } :=
    ⟨"c9", _, _, _, none, ∅, ⟨.limit 8, nofun, rfl⟩, ⟨"", fun _ => rfl, rfl⟩, ⟨{}, nofun, rfl⟩,
      nofun, rfl, rfl⟩
  have hcolumns : Keyed.ReordersBy (Column.HiddenEdit {}) Table.draft.columns
      (Table.redraft keyId).columns :=
    ⟨(Table.redraft keyId).columns.entries, .cons ⟨rfl, hcolumn⟩ .nil, .refl _⟩
  intro key
  refine Keyed.ReordersBy.get? ⟨(redrafted keyId).entries, .cons ⟨rfl, ?_⟩ .nil, .refl _⟩ key
  exact ⟨"t9", _, _, _, [], [], nofun, fun id _ => hcolumns.get? id, .cons h .nil, .nil, .nil, rfl⟩

/-- The sequences `Sequence.twins` without their users, under other keys. -/
def Sequence.strays : List (String × Sequence) :=
  [("a", named "q2" "Numbers"), ("b", named "q1" "Numbers")]

theorem Sequence.alike_strays :
    Alike HiddenEdit (Keyed.ofList twins) (Keyed.ofList strays) :=
  .inr ⟨distinct_twins, [named "q1" "Numbers", named "q2" "Numbers"],
    .cons ⟨∅, rfl⟩ (.cons ⟨∅, rfl⟩ .nil), List.Perm.swap _ _ _⟩

open Script Schema in
theorem hidden_fields_stay_hidden_drafted :
    Sequence.Alike Sequence.HiddenEdit (Keyed.ofList Sequence.twins)
        (Keyed.ofList Sequence.strays) ∧
      drafted.HiddenEdit {} ForeignKey.HiddenEdit (redrafted "k1") ∧
        drafted.HiddenEdit {} ForeignKey.IdEdit (redrafted "k9") ∧
          texts {} drafted (Keyed.ofList Sequence.twins) =
              texts {} (redrafted "k1") (Keyed.ofList Sequence.strays) ∧
            SameUpTo (Fault.SameButKeyId drafted (redrafted "k9"))
              (texts {} drafted (Keyed.ofList Sequence.twins))
              (texts {} (redrafted "k9") (Keyed.ofList Sequence.strays)) := by
  have hhidden := hidden_fields_stay_hidden {} Sequence.alike_strays
  have hedit : drafted.HiddenEdit {} ForeignKey.HiddenEdit (redrafted "k1") :=
    hiddenEdit_redrafted ⟨none, rfl⟩
  have hid : drafted.HiddenEdit {} ForeignKey.IdEdit (redrafted "k9") :=
    hiddenEdit_redrafted ⟨"k9", none, rfl⟩
  exact ⟨Sequence.alike_strays, hedit, hid, hhidden.1 _ _ hedit, hhidden.2 _ _ hid⟩

end SchemaScript
