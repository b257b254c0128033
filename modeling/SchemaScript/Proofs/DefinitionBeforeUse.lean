import SchemaScript.Proofs.Resolution

/-! Nothing is used before it is defined.

In a script with tables every entry of the schema has one `CREATE TABLE`, and what comes later refers
to it by the identifier found there: the indexes of the table, which follow it before the next table
does, the interleaving clauses of its children, and the foreign keys that start from it or lead to
it, which come last. `generate_defines_before_use` collects this as `DefinedBeforeUse`. -/
namespace SchemaScript

/-! ### Which identifiers a statement names, and where -/

/-- The text creates a table under an identifier. -/
def CreatesTable (cfg : Config) (t : Table) (ident text : String) : Prop :=
  ∃ rest, text = t.banner cfg ++ "CREATE TABLE " ++ ident ++ " (\n" ++ rest

/-- The text creates an index on the table with an identifier. -/
def CreatesIndexOn (cfg : Config) (i : Index) (ident text : String) : Prop :=
  ∃ rest, text = "CREATE " ++ (if i.unique then "UNIQUE " else "") ++ "INDEX " ++ cfg.quote i.name ++
    " ON " ++ ident ++ " (" ++ rest

/-- The text makes columns of the table with one identifier refer to the table with another. -/
def AddsForeignKey (cfg : Config) (t : Table) (k : ForeignKey) (ident target text : String) : Prop :=
  ∃ columns rest, t.columnNames cfg k.columns = .ok columns ∧
    text = "ALTER TABLE " ++ ident ++ " ADD " ++ k.nameClause cfg ++ "FOREIGN KEY (" ++ columns ++
      ") REFERENCES " ++ target ++ " (" ++ rest

/-- The clause that stores a table with the table of an identifier. -/
def Parent.clause (cfg : Config) (p : Parent) (ident : String) : String :=
  interleavingLead cfg.dialect ++ "INTERLEAVE " ++ p.kind.words ++ " " ++ ident ++ p.actionText

/-- The table stored with no other. -/
def Table.standalone (t : Table) : Table := { t with parent := none }

/-- Whether something is the table under a key. -/
def Subject.isTableOf (key : String) : Subject → Bool
  | table key' _ => key' == key
  | _ => false

theorem Subject.isTableOf_iff {key : String} {x : Subject} :
    x.isTableOf key = true ↔ ∃ t, x = .table key t := by
  cases x <;> simp [Subject.isTableOf]

/-- The position of the `CREATE TABLE` of the entry under a key. -/
def Script.position (script : List Statement) (key : String) : Nat :=
  script.findIdx fun st => st.subject.isTableOf key

open Script

/-- What a script owes to its readers, who take it statement by statement. -/
structure DefinedBeforeUse (cfg : Config) (s : Schema) (script : List Statement) : Prop where
  /-- Every entry has its `CREATE TABLE`, under the table's quoted name. -/
  created : ∀ e ∈ s.entries, ∃ text, script[position script e.1]? = some ⟨.table e.1 e.2, text⟩ ∧
    CreatesTable cfg e.2 (cfg.quote e.2.name) text
  /-- There is no other `CREATE TABLE`. -/
  once : ∀ (i : Nat) key t text, script[i]? = some ⟨.table key t, text⟩ →
    (key, t) ∈ s.entries ∧ i = position script key
  /-- An index follows its table before the next table does, and names it. -/
  indexed : ∀ (i : Nat) key t x text, script[i]? = some ⟨.index key t x, text⟩ →
    (key, t) ∈ s.entries ∧ position script key < i ∧
      (∀ next ∈ s.ids, position script key < position script next → i < position script next) ∧
        CreatesIndexOn cfg x (cfg.quote t.name) text
  /-- A table is followed by an interleaving clause exactly if its parent is there. The clause names
  the parent, which has been created before. -/
  interleaved : ∀ (i : Nat) key t text, script[i]? = some ⟨.table key t, text⟩ →
    ∃ body, (t.standalone.create cfg s).outcome = .ok body ∧
      ((∃ p ident, text = body ++ Parent.clause cfg p ident) ↔
        ∃ id, t.parentId? = some id ∧ s.contains id = true) ∧
      ∀ id up, t.parentId? = some id → s.get? id = some up →
        (∃ p, t.parent = some p ∧ text = body ++ p.clause cfg (cfg.quote up.name)) ∧
          position script id < i
  /-- Foreign keys come after all tables and indexes, and name the tables at both ends. -/
  linked : ∀ (i : Nat) key t k text, script[i]? = some ⟨.foreignKey key t k, text⟩ →
    (key, t) ∈ s.entries ∧
      (∀ (j : Nat) key' t' text', script[j]? = some ⟨.table key' t', text'⟩ → j < i) ∧
      (∀ (j : Nat) key' t' x text', script[j]? = some ⟨.index key' t' x, text'⟩ → j < i) ∧
        ∃ target, s.get? k.targetTable = some target ∧
          AddsForeignKey cfg t k (cfg.quote t.name) (cfg.quote target.name) text

variable {cfg : Config} {s : Schema} {sequences : Keyed Sequence} {script : List Statement}

/-! ### Texts -/

theorem Table.createsTable_of_create {t : Table} {text : String}
    (h : (t.create cfg s).outcome = .ok text) : CreatesTable cfg t (cfg.quote t.name) text := by
  obtain ⟨columns, keys, _, _, rfl⟩ := Table.create_eq_ok_iff.mp h
  refine ⟨Body.columnLines cfg columns ++ checkLines cfg.dialect t.checks ++
    closing cfg.dialect keys ++ t.interleavingText cfg s, ?_⟩
  unfold Table.createText
  simp only [String.append_assoc]

theorem Index.createsIndexOn_of_create {t : Table} {i : Index} {text : String}
    (h : (i.create cfg t).outcome = .ok text) : CreatesIndexOn cfg i (cfg.quote t.name) text := by
  obtain ⟨keys, storing, _, _, rfl⟩ := Index.create_eq_ok_iff.mp h
  refine ⟨keys ++ ")" ++ storing, ?_⟩
  unfold Index.createText
  simp only [String.append_assoc]

theorem ForeignKey.addsForeignKey_of_add {t : Table} {k : ForeignKey} {text : String}
    (h : (k.add cfg s t).outcome = .ok text) :
    ∃ target, s.get? k.targetTable = some target ∧
      AddsForeignKey cfg t k (cfg.quote t.name) (cfg.quote target.name) text := by
  obtain ⟨_, target, columns, targets, htarget, hcolumns, _, rfl⟩ := ForeignKey.add_eq_ok_iff.mp h
  refine ⟨target, htarget, columns, targets ++ ")" ++ k.actionClause, hcolumns, ?_⟩
  unfold ForeignKey.constraintText
  simp only [String.append_assoc]

/-! ### Interleaving clauses -/

/-- A clause is a text of its own, so a table with one reads differently from a table without. -/
theorem Parent.append_clause_ne (cfg : Config) (p : Parent) (ident body : String) :
    body ++ p.clause cfg ident ≠ body := by
  intro h
  have hlength := congrArg String.length h
  have hwords : 0 < "INTERLEAVE ".length := by decide
  simp only [Parent.clause, String.length_append] at hlength
  omega

theorem Table.interleavingText_of_root {t : Table} (h : s.parentOf? t = none) :
    t.interleavingText cfg s = "" := by
  unfold Table.interleavingText
  rw [h]
  cases t.parent <;> rfl

theorem Table.interleavingText_of_link (cfg : Config) {t up : Table} {id : String}
    (h : s.parentOf? t = some (id, up)) :
    ∃ p, t.parent = some p ∧ t.interleavingText cfg s = p.clause cfg (cfg.quote up.name) := by
  cases hp : t.parent with
  | none =>
    have hid := (Schema.parentOf?_eq_some_iff.mp h).1
    rw [Table.parentId?, hp] at hid
    cases hid
  | some p =>
    refine ⟨p, rfl, ?_⟩
    unfold Table.interleavingText
    rw [hp, h]
    rfl

/-- Something follows as a clause exactly if there is a parent. -/
theorem Table.exists_clause_iff {t : Table} {body : String} :
    (∃ p ident, body ++ t.interleavingText cfg s = body ++ Parent.clause cfg p ident) ↔
      ∃ up, s.parentOf? t = some up := by
  constructor
  · intro hclause
    obtain ⟨p, ident, hp⟩ := hclause
    by_contra hroot
    have hnone := Option.eq_none_iff_forall_ne_some.mpr fun up hup => hroot ⟨up, hup⟩
    rw [Table.interleavingText_of_root hnone, String.append_empty] at hp
    exact Parent.append_clause_ne cfg p ident body hp.symm
  · intro hlink
    obtain ⟨up, hup⟩ := hlink
    obtain ⟨p, _, hclause⟩ := Table.interleavingText_of_link cfg hup
    exact ⟨p, cfg.quote up.2.name, by rw [hclause]⟩

/-- The statement of a table is that of the table on its own, then the clause. -/
theorem Table.create_standalone {t : Table} {text : String}
    (h : (t.create cfg s).outcome = .ok text) :
    ∃ body, (t.standalone.create cfg s).outcome = .ok body ∧
      text = body ++ t.interleavingText cfg s := by
  obtain ⟨columns, keys, hcolumns, hkeys, rfl⟩ := Table.create_eq_ok_iff.mp h
  refine ⟨t.standalone.createText cfg s columns keys,
    Table.create_eq_ok_iff.mpr ⟨columns, keys, hcolumns, hkeys, rfl⟩, ?_⟩
  show _ = _ ++ "" ++ _
  rw [String.append_empty]
  rfl

/-- Whether a parent is there, said of the link and of the key. -/
theorem Schema.exists_parentId?_iff {t : Table} :
    (∃ id, t.parentId? = some id ∧ s.contains id = true) ↔ ∃ p, s.parentOf? t = some p := by
  simp only [Schema.parentOf?_eq_some_iff, Schema.contains_iff, Schema.ids, Keyed.keys,
    List.mem_map]
  constructor
  · intro h
    obtain ⟨_, hid, e, he, rfl⟩ := h
    exact ⟨e, hid, he⟩
  · intro h
    obtain ⟨e, hid, he⟩ := h
    exact ⟨e.1, hid, e, he, rfl⟩

/-! ### Positions -/

namespace Script.Written
variable {key : String} {t : Table} {text : String} {i : Nat}

/-- In a script with tables the position of a key is that of the entry under it. -/
theorem at_position (h : Written cfg s sequences script) (htables : cfg.tables = true)
    (hmem : (key, t) ∈ s.entries) :
    ∃ text, script[position script key]? = some ⟨.table key t, text⟩ := by
  have hsubject : Subject.table key t ∈ subjects cfg s sequences :=
    (mem_subjects h.ends).mpr ⟨htables, hmem⟩
  obtain ⟨i, hi⟩ := List.mem_iff_getElem?.mp hsubject
  obtain ⟨text, htext⟩ := h.exists_at hi
  have hlt : position script key < script.length :=
    List.findIdx_lt_length_of_exists ⟨_, List.mem_of_getElem? htext, by simp [Subject.isTableOf]⟩
  have hat := List.getElem?_eq_getElem hlt
  have hbelongs := h.belongs_at hat
  obtain ⟨t', ht⟩ := Subject.isTableOf_iff.mp (List.findIdx_getElem (w := hlt))
  change (script[position script key]).subject = .table key t' at ht
  rw [ht] at hbelongs
  have heq : t' = t := congrArg Prod.snd (s.entry_ext hbelongs.2 hmem rfl)
  refine ⟨(script[position script key]).text, ?_⟩
  rw [hat, ← heq, ← ht]

/-- A `CREATE TABLE` is that of an entry and stands at its position. -/
theorem eq_position (h : Written cfg s sequences script)
    (hi : script[i]? = some ⟨.table key t, text⟩) :
    (key, t) ∈ s.entries ∧ i = position script key := by
  have hbelongs := h.belongs_at hi
  obtain ⟨_, hpos⟩ := h.at_position hbelongs.1 hbelongs.2
  have hsubject : (subjects cfg s sequences)[i]? = some (.table key t) := h.subject_at hi
  exact ⟨hbelongs.2,
    eq_of_pairwise (pairwise_subjects h.ends) hsubject (h.subject_at hpos) (lt_irrefl _)⟩

theorem position_lt_of_rank_lt (h : Written cfg s sequences script) (htables : cfg.tables = true)
    {a b : String × Table} (ha : a ∈ s.entries) (hb : b ∈ s.entries) (hrank : s.rank a < s.rank b) :
    position script a.1 < position script b.1 := by
  obtain ⟨_, hi⟩ := h.at_position htables ha
  obtain ⟨_, hj⟩ := h.at_position htables hb
  refine h.lt_of_not_mayPrecede hi hj ?_ (not_lt_of_gt hrank)
  intro heq
  obtain ⟨hkey, htable⟩ := Subject.table.inj heq
  rw [Prod.ext hkey htable] at hrank
  exact lt_irrefl _ hrank

/-- An index stands behind its table and before any table behind that. -/
theorem index_between (h : Written cfg s sequences script) {x : Index}
    (hi : script[i]? = some ⟨.index key t x, text⟩) :
    position script key < i ∧
      ∀ next ∈ s.ids, position script key < position script next → i < position script next := by
  obtain ⟨htables, hmem, _⟩ := h.belongs_at hi
  obtain ⟨_, hpos⟩ := h.at_position htables hmem
  refine ⟨h.lt_of_not_mayPrecede hpos hi (by simp) (lt_irrefl _), ?_⟩
  intro next hnext hlt
  obtain ⟨e, he, rfl⟩ := List.mem_map.mp hnext
  obtain ⟨_, hposNext⟩ := h.at_position htables he
  have hrank := h.mayPrecede_of_lt hpos hposNext hlt
  exact h.lt_of_not_mayPrecede hi hposNext (by simp) (not_le_of_gt hrank)

/-- A table stands behind its parent. -/
theorem position_parent_lt (h : Written cfg s sequences script)
    (hi : script[i]? = some ⟨.table key t, text⟩) {p : String × Table}
    (hp : s.parentOf? t = some p) : position script p.1 < i := by
  obtain ⟨htables, hmem⟩ := h.belongs_at hi
  rw [(h.eq_position hi).2]
  exact h.position_lt_of_rank_lt htables (Schema.mem_of_parentOf? hp) hmem
    (Schema.rank_lt_of_link hmem hp (h.ends _ hmem))

/-- A table has the clause of its parent, and none without a parent. -/
theorem interleaved (h : Written cfg s sequences script)
    (hi : script[i]? = some ⟨.table key t, text⟩) :
    ∃ body, (t.standalone.create cfg s).outcome = .ok body ∧
      ((∃ p ident, text = body ++ Parent.clause cfg p ident) ↔
        ∃ id, t.parentId? = some id ∧ s.contains id = true) ∧
      ∀ id up, t.parentId? = some id → s.get? id = some up →
        (∃ p, t.parent = some p ∧ text = body ++ p.clause cfg (cfg.quote up.name)) ∧
          position script id < i := by
  obtain ⟨body, hbody, htext⟩ := Table.create_standalone (h.text_at hi)
  change text = _ at htext
  refine ⟨body, hbody, ?_, ?_⟩
  · rw [Schema.exists_parentId?_iff, htext]
    exact Table.exists_clause_iff
  · intro id up hid hup
    have hlink := Schema.parentOf?_eq_some_iff.mpr ⟨hid, s.get?_eq_some_iff.mp hup⟩
    obtain ⟨p, hp, hclause⟩ := Table.interleavingText_of_link cfg hlink
    exact ⟨⟨p, hp, by rw [htext, hclause]⟩, h.position_parent_lt hi hlink⟩

end Script.Written

/-! ### The whole script -/

/-- **A script with tables defines everything before it uses it.** -/
theorem generate_defines_before_use (cfg : Config) (s : Schema) (sequences : Keyed Sequence)
    (htables : cfg.tables = true) {script : List Statement}
    (h : (Script.generate cfg s sequences).outcome = .ok script) : DefinedBeforeUse cfg s script := by
  have hw := Script.generate_eq_ok_iff.mp h
  constructor
  case created =>
    intro e he
    obtain ⟨text, hpos⟩ := hw.at_position htables he
    exact ⟨text, hpos, Table.createsTable_of_create (hw.text_at hpos)⟩
  case once =>
    intro i key t text hi
    exact hw.eq_position hi
  case indexed =>
    intro i key t x text hi
    obtain ⟨hafter, hbefore⟩ := hw.index_between hi
    exact ⟨(hw.belongs_at hi).2.1, hafter, hbefore, Index.createsIndexOn_of_create (hw.text_at hi)⟩
  case interleaved =>
    intro i key t text hi
    exact hw.interleaved hi
  case linked =>
    intro i key t k text hi
    refine ⟨(hw.belongs_at hi).2.1, ?_, ?_, ForeignKey.addsForeignKey_of_add (hw.text_at hi)⟩
    · intro j key' t' text' hj
      exact hw.lt_of_not_mayPrecede hj hi (by simp) id
    · intro j key' t' x text' hj
      exact hw.lt_of_not_mayPrecede hj hi (by simp) id

/-- Albums are stored with their singers, have an index, and refer to their singers by a key. By name
they come first. -/
def Schema.albums : Schema :=
  let singer : KeyPart := { column := "c1", order := 1 }
  let singers := (Table.named "t2" "Singers").withColumn
    { id := "c1", name := "SingerId", type := .ofBase .int64 }
  let albums := (Table.named "t1" "Albums").withColumn
    { id := "c1", name := "Singer", type := .ofBase .int64 }
  ofTables
    [(((albums.withKeyPart singer).withIndex
        { id := "i1", name := "BySinger", tableId := "t1", keys := [singer] }).withForeignKey
        ((ForeignKey.toTable "f1" "t2").pair "c1" "c1")).interleavedIn { id := "t2" },
      singers.withKeyPart singer]

theorem exists_script_albums :
    ∃ script, (Script.generate {} Schema.albums ∅).outcome = .ok script := by
  have hall : ∀ e ∈ Schema.albums.entries, Schema.albums.onChain? e 2 = none := by decide
  have hends : Schema.albums.ChainsEnd := fun e he => ⟨2, hall e he⟩
  have hcolumns : ∀ e ∈ Schema.albums.entries, e.2.DefinesColumns := by decide
  have hkeys : ∀ e ∈ Schema.albums.entries, ∀ k ∈ e.2.foreignKeys, k.Resolves Schema.albums e.2 := by
    decide
  exact Script.exists_script {} ∅ hends hcolumns hkeys

theorem generate_defines_before_use_albums :
    ({} : Config).tables = true ∧ ∃ script,
      (Script.generate {} Schema.albums ∅).outcome = .ok script ∧
        DefinedBeforeUse {} Schema.albums script := by
  obtain ⟨script, hscript⟩ := exists_script_albums
  exact ⟨rfl, script, hscript, generate_defines_before_use {} Schema.albums ∅ rfl hscript⟩

end SchemaScript
