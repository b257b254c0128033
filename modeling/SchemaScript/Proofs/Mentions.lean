import SchemaScript.Proofs.DefinitionBeforeUse
import SchemaScript.Proofs.Reordering

/-! Which columns a script mentions.

A primary key, an index and a foreign key mention columns by id. An id stands for a column that its
table defines, whether or not the table lists it among the columns of its body. So a script names only
columns that are defined (`Subject.Mentions.names`), and each has a line in the `CREATE TABLE` of its
table if that table lists all that it defines (`generate_mentions`); a definition that is not listed
can be named, and then it has none. -/
namespace SchemaScript

variable {α β : Type}

/-! ### Texts within texts -/

namespace Text

/-- The one text stands somewhere in the other. -/
def Within (part whole : String) : Prop := part.toList <:+: whole.toList

variable {part whole : String}

theorem within_refl (text : String) : Within text text := List.infix_rfl

theorem Within.trans {next : String} (h : Within part whole) (h' : Within whole next) :
    Within part next := List.IsInfix.trans h h'

theorem within_append_left (before after : String) : Within before (before ++ after) := by
  rw [Within, String.toList_append]
  exact (List.prefix_append _ _).isInfix

theorem within_append_right (before after : String) : Within after (before ++ after) := by
  rw [Within, String.toList_append]
  exact (List.suffix_append _ _).isInfix

theorem Within.append_left (h : Within part whole) (before : String) :
    Within part (before ++ whole) := h.trans (within_append_right before whole)

theorem Within.append_right (h : Within part whole) (after : String) :
    Within part (whole ++ after) := h.trans (within_append_left whole after)

/-- A piece stands in what is put together from it and others. -/
theorem within_joined {sep piece : String} {pieces : List String} (h : piece ∈ pieces) :
    Within piece (joined sep pieces) := by
  induction pieces with
  | nil => cases h
  | cons first rest ih =>
    cases rest with
    | nil =>
      rw [List.mem_singleton.mp h]
      exact within_refl first
    | cons next rest =>
      rw [joined_cons_cons]
      rcases List.mem_cons.mp h with rfl | h
      · exact ((within_refl piece).append_right sep).append_right _
      · exact (ih h).append_left _

theorem within_concat {piece : String} {pieces : List String} (h : piece ∈ pieces) :
    Within piece (concat pieces) := by
  induction pieces with
  | nil => cases h
  | cons first rest ih =>
    rw [concat_cons]
    rcases List.mem_cons.mp h with rfl | h
    · exact within_append_left _ _
    · exact (ih h).append_left first

end Text

open Text (Within)

/-! ### Mentions -/

/-- A statement mentions a column, by its id in the table under a key, outside the body of a table. -/
inductive Subject.Mentions (s : Schema) : Subject → String → Table → String → Prop where
  | primaryKey {key : String} {t : Table} {part : KeyPart} (h : part ∈ t.primaryKey) :
    Mentions s (.table key t) key t part.column
  | indexKey {key : String} {t : Table} {i : Index} {part : KeyPart} (h : part ∈ i.keys) :
    Mentions s (.index key t i) key t part.column
  | stored {key : String} {t : Table} {i : Index} {id : String} (h : id ∈ i.extraColumns t) :
    Mentions s (.index key t i) key t id
  | linked {key : String} {t : Table} {k : ForeignKey} {id : String} (h : id ∈ k.columns) :
    Mentions s (.foreignKey key t k) key t id
  | target {key : String} {t : Table} {k : ForeignKey} {target : Table} {id : String}
    (htarget : s.get? k.targetTable = some target) (h : id ∈ k.targetColumns) :
    Mentions s (.foreignKey key t k) k.targetTable target id

/-- All columns that a script mentions are declared: their tables list them among the columns of the
body. -/
def Script.DeclaresMentions (s : Schema) (script : List Statement) : Prop :=
  ∀ st ∈ script, ∀ key t id, st.subject.Mentions s key t id → id ∈ t.columnIds

variable {cfg : Config} {s : Schema} {sequences : Keyed Sequence} {script : List Statement}

/-! ### What a mention stands for -/

theorem exists_of_mapM {f : α → Except Fault β} {l : List α} {bs : List β} (h : l.mapM f = .ok bs)
    {a : α} (ha : a ∈ l) : ∃ b ∈ bs, f a = .ok b :=
  exists_of_forall₂ (mapM_eq_ok_iff.mp h) ha

namespace Table

variable {t : Table} {id name text : String}

theorem columnName_eq_ok_iff :
    t.columnName cfg id = .ok name ↔ ∃ c, t.columns.get? id = some c ∧ cfg.quote c.name = name := by
  rw [columnName, map_eq_ok_iff, column]
  cases t.columns.get? id <;> simp

/-- The column is defined, and the text names it. -/
def Names (cfg : Config) (t : Table) (id text : String) : Prop :=
  ∃ c, t.columns.get? id = some c ∧ Within (cfg.quote c.name) text

theorem Names.mono {whole : String} (h : t.Names cfg id text) (hwithin : Within text whole) :
    t.Names cfg id whole := by
  obtain ⟨c, hc, hname⟩ := h
  exact ⟨c, hc, hname.trans hwithin⟩

theorem names_of_keyText {parts : List KeyPart} (h : t.keyText cfg parts = .ok text)
    {part : KeyPart} (hpart : part ∈ parts) : t.Names cfg part.column text := by
  obtain ⟨pieces, hpieces, rfl⟩ := map_eq_ok_iff.mp h
  obtain ⟨piece, hpiece, hpart⟩ :=
    exists_of_mapM hpieces ((KeyPart.perm_sorted parts).mem_iff.mpr hpart)
  obtain ⟨name, hname, rfl⟩ := map_eq_ok_iff.mp hpart
  obtain ⟨c, hc, rfl⟩ := columnName_eq_ok_iff.mp hname
  refine ⟨c, hc, .trans ?_ (Text.within_joined hpiece)⟩
  split
  · exact Text.within_append_left _ _
  · exact Text.within_refl _

theorem names_of_columnNames {ids : List String} (h : t.columnNames cfg ids = .ok text)
    (hid : id ∈ ids) : t.Names cfg id text := by
  obtain ⟨names, hnames, rfl⟩ := map_eq_ok_iff.mp h
  obtain ⟨name, hname, hid⟩ := exists_of_mapM hnames hid
  obtain ⟨c, hc, rfl⟩ := columnName_eq_ok_iff.mp hid
  exact ⟨c, hc, Text.within_joined hname⟩

/-! ### Where the names stand -/

theorem within_closing (d : Dialect) (keys : String) : Within keys (closing d keys) := by
  unfold closing
  split
  · rename_i hkeys
    rw [hkeys]
    exact List.nil_infix
  · cases d with
    | googleSql => exact (Text.within_append_right _ keys).append_right _
    | postgreSql => exact (Text.within_append_right _ keys).append_right _

theorem within_createText (cfg : Config) (s : Schema) (t : Table) (columns : List Column)
    (keys : String) : Within keys (t.createText cfg s columns keys) :=
  ((within_closing cfg.dialect keys).append_left _).append_right _

/-- The statement that creates a table has the line of each column of its body. -/
theorem within_createText_of_mem (cfg : Config) (s : Schema) (t : Table) {columns : List Column}
    {c : Column} (hc : c ∈ columns) (keys : String) :
    Within (Body.line cfg c) (t.createText cfg s columns keys) := by
  have hchunk : Within (Body.line cfg c) (Body.chunk cfg (Body.width cfg columns) c) :=
    ((Text.within_refl _).append_right _).append_right _
  have hlines : Within (Body.line cfg c) (Body.columnLines cfg columns) :=
    hchunk.trans (Text.within_concat (List.mem_map_of_mem hc))
  exact (((hlines.append_left _).append_right _).append_right _).append_right _

end Table

theorem Index.names_of_storingClause {t : Table} {i : Index} {id text : String}
    (h : i.storingClause cfg t = .ok text) (hid : id ∈ i.extraColumns t) : t.Names cfg id text := by
  unfold Index.storingClause at h
  split at h
  · rename_i hnone
    rw [hnone] at hid
    cases hid
  · obtain ⟨names, hnames, rfl⟩ := map_eq_ok_iff.mp h
    refine (Table.names_of_columnNames hnames hid).mono ?_
    exact (Text.within_append_right _ names).append_right _

/-- A constraint has the columns of both tables. -/
theorem ForeignKey.within_constraint (cfg : Config) (k : ForeignKey) (target : Table)
    (columns targets before : String) :
    Within columns (before ++ k.constraintText cfg target columns targets) ∧
      Within targets (before ++ k.constraintText cfg target columns targets) := by
  have hcolumns : Within columns (k.constraintText cfg target columns targets) :=
    ((((((Text.within_append_right _ columns).append_right _).append_right _).append_right
      _).append_right _).append_right _).append_right _
  have htargets : Within targets (k.constraintText cfg target columns targets) :=
    ((Text.within_append_right _ targets).append_right _).append_right _
  exact ⟨hcolumns.append_left before, htargets.append_left before⟩

namespace Subject.Mentions

variable {x : Subject} {key id text : String} {t : Table}

/-- **What a statement mentions is defined, and the statement names it.** -/
theorem names (h : x.Mentions s key t id) (hx : (x.write cfg s).outcome = .ok text) :
    t.Names cfg id text := by
  cases h with
  | primaryKey hpart =>
    obtain ⟨columns, keys, _, hkeys, rfl⟩ := Table.create_eq_ok_iff.mp hx
    exact (Table.names_of_keyText hkeys hpart).mono (t.within_createText cfg s columns keys)
  | indexKey hpart =>
    obtain ⟨keys, storing, hkeys, _, rfl⟩ := Index.create_eq_ok_iff.mp hx
    refine (Table.names_of_keyText hkeys hpart).mono ?_
    exact ((Text.within_append_right _ keys).append_right _).append_right _
  | stored hid =>
    obtain ⟨keys, storing, _, hstoring, rfl⟩ := Index.create_eq_ok_iff.mp hx
    exact (Index.names_of_storingClause hstoring hid).mono (Text.within_append_right _ storing)
  | @linked _ _ k _ hid =>
    obtain ⟨_, target, columns, targets, _, hcolumns, _, rfl⟩ := ForeignKey.add_eq_ok_iff.mp hx
    exact (Table.names_of_columnNames hcolumns hid).mono
      (k.within_constraint cfg target columns targets _).1
  | @target _ _ k _ _ htarget hid =>
    obtain ⟨_, found, columns, targets, hfound, _, htargets, rfl⟩ := ForeignKey.add_eq_ok_iff.mp hx
    cases hfound.symm.trans htarget
    exact (Table.names_of_columnNames htargets hid).mono
      (k.within_constraint cfg t columns targets _).2

theorem contains_column (h : x.Mentions s key t id) (hx : (x.write cfg s).outcome = .ok text) :
    t.columns.contains id = true := by
  obtain ⟨c, hc, _⟩ := h.names hx
  simp [Keyed.contains, hc]

/-- A mention is of a column of a table of the schema. -/
theorem mem_entries (h : x.Mentions s key t id) (hx : x.Belongs cfg s sequences) :
    (key, t) ∈ s.entries := by
  cases h with
  | primaryKey _ => exact hx.2
  | indexKey _ => exact hx.2.1
  | stored _ => exact hx.2.1
  | linked _ => exact hx.2.1
  | target htarget _ => exact s.get?_eq_some_iff.mp htarget

end Subject.Mentions

/-! ### Mentions in a script -/

/-- What is behind the columns that a script mentions. -/
structure MentionsStand (cfg : Config) (s : Schema) (script : List Statement) : Prop where
  /-- The table defines the column, and the statement names it. -/
  named : ∀ st ∈ script, ∀ key t id, st.subject.Mentions s key t id → t.Names cfg id st.text
  /-- The table is created by the script. Its body consists of the columns it lists. -/
  created : ∀ st ∈ script, ∀ key t id, st.subject.Mentions s key t id →
    ∃ columns keys, t.columnIds.mapM t.column = .ok columns ∧
      ⟨.table key t, t.createText cfg s columns keys⟩ ∈ script ∧
        ∀ c ∈ columns, Within (Body.line cfg c) (t.createText cfg s columns keys)
  /-- If the tables list all columns that they define, all mentions are declared. -/
  declared : (∀ e ∈ s.entries, ∀ id, e.2.columns.contains id = true → id ∈ e.2.columnIds) →
    Script.DeclaresMentions s script

/-- **Every column that a script with tables mentions is defined by a table that it creates**, and so
declared if no table keeps definitions that it does not list. -/
theorem generate_mentions (cfg : Config) (s : Schema) (sequences : Keyed Sequence)
    (htables : cfg.tables = true) {script : List Statement}
    (h : (Script.generate cfg s sequences).outcome = .ok script) : MentionsStand cfg s script := by
  have hw := Script.generate_eq_ok_iff.mp h
  have hbelongs (st : Statement) (hst : st ∈ script) : st.subject.Belongs cfg s sequences := by
    rw [← Script.mem_subjects hw.ends, ← hw.subjects_eq]
    exact List.mem_map_of_mem hst
  constructor
  case named =>
    intro st hst key t id hmention
    exact hmention.names (hw.text_eq st hst)
  case created =>
    intro st hst key t id hmention
    have hmem := hmention.mem_entries (hbelongs st hst)
    obtain ⟨text, hpos⟩ := hw.at_position htables hmem
    obtain ⟨columns, keys, hcolumns, _, htext⟩ := Table.create_eq_ok_iff.mp (hw.text_at hpos)
    refine ⟨columns, keys, hcolumns, ?_, fun c hc => t.within_createText_of_mem cfg s hc keys⟩
    rw [htext]
    exact List.mem_of_getElem? hpos
  case declared =>
    intro hlisted st hst key t id hmention
    have hdefined := hmention.contains_column (hw.text_eq st hst)
    exact hlisted _ (hmention.mem_entries (hbelongs st hst)) id hdefined

theorem generate_mentions_albums :
    ({} : Config).tables = true ∧ ∃ script,
      (Script.generate {} Schema.albums ∅).outcome = .ok script ∧
        MentionsStand {} Schema.albums script ∧ Script.DeclaresMentions Schema.albums script := by
  obtain ⟨script, hscript⟩ := exists_script_albums
  have hstand := generate_mentions {} Schema.albums ∅ rfl hscript
  have hlisted : ∀ e ∈ Schema.albums.entries, ∀ id ∈ e.2.columns.keys, id ∈ e.2.columnIds := by
    decide
  exact ⟨rfl, script, hscript, hstand, hstand.declared fun e he id hid =>
    hlisted e he id ((e.2.columns.contains_iff id).mp hid)⟩

/-- A table whose key is a column that it defines and does not list. -/
def Table.hidden : Table where
  id := "t1"
  name := "T"
  columns := (∅ : Keyed Column).insert "c1" { id := "c1", name := "Id", type := .ofBase .int64 }
  primaryKey := [{ column := "c1", order := 1 }]

def Schema.hidden : Schema := ofTables [Table.hidden]

/-- A definition that is not listed can be mentioned all the same. -/
theorem mentions_undeclared_hidden :
    ({} : Config).tables = true ∧ ∃ script,
      (Script.generate {} Schema.hidden ∅).outcome = .ok script ∧
        ¬Script.DeclaresMentions Schema.hidden script := by
  have hroots : ∀ e ∈ Schema.hidden.entries, Schema.hidden.parentOf? e.2 = none := by decide
  have hends : Schema.hidden.ChainsEnd := fun e he => .of_root (hroots e he)
  have hcolumns : ∀ e ∈ Schema.hidden.entries, e.2.DefinesColumns := by decide
  have hkeys : ∀ e ∈ Schema.hidden.entries, ∀ k ∈ e.2.foreignKeys, k.Resolves Schema.hidden e.2 := by
    decide
  obtain ⟨script, hscript⟩ := Script.exists_script {} ∅ hends hcolumns hkeys
  refine ⟨rfl, script, hscript, fun hdeclares => ?_⟩
  have hmem : ("t1", Table.hidden) ∈ Schema.hidden.entries := List.mem_singleton_self _
  obtain ⟨text, hpos⟩ := (Script.generate_eq_ok_iff.mp hscript).at_position rfl hmem
  have hkey : KeyPart.mk "c1" false 1 ∈ Table.hidden.primaryKey := List.mem_singleton_self _
  have hmention : (Subject.table "t1" Table.hidden).Mentions Schema.hidden "t1" Table.hidden "c1" :=
    .primaryKey hkey
  exact List.not_mem_nil (hdeclares _ (List.mem_of_getElem? hpos) _ _ _ hmention)

end SchemaScript
