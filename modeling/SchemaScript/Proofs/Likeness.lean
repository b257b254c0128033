import SchemaScript.Proofs.DefinitionBeforeUse
import SchemaScript.Proofs.Reordering

/-! What looks alike to a script.

A script reads some things of each column, key and table and passes over the rest. Two of them look
alike if what is read is the same (`Table.LooksLike`), and then lookups in them agree and their
statements are the same. A column counts only where something refers to it. A fault about a foreign key
may call it by its id, which is read for nothing else; so statements of foreign keys are the same up to
the names in their faults (`SameUpTo`). -/
namespace SchemaScript

variable {α β γ : Type}

/-! ### Results with related faults -/

theorem mapM_congr {f f' : α → Except Fault β} {l : List α} (h : ∀ a ∈ l, f a = f' a) :
    l.mapM f = l.mapM f' := by
  induction l with
  | nil => rfl
  | cons a l ih =>
    rw [mapM_cons_eq, mapM_cons_eq, h a (List.mem_cons_self ..),
      ih fun b hb => h b (List.mem_cons_of_mem _ hb)]

/-- One result for both, or two faults that are related. -/
inductive SameUpTo (g : Fault → Fault → Prop) : Except Fault α → Except Fault α → Prop where
  | ok (a : α) : SameUpTo g (.ok a) (.ok a)
  | error {f f' : Fault} (h : g f f') : SameUpTo g (.error f) (.error f')

namespace SameUpTo

variable {g : Fault → Fault → Prop}

theorem of_eq {x y : Except Fault α} (hg : ∀ f, g f f) (h : x = y) : SameUpTo g x y := by
  subst h
  cases x with
  | ok a => exact .ok a
  | error f => exact .error (hg f)

theorem eq {x y : Except Fault α} (h : SameUpTo (· = ·) x y) : x = y := by
  cases h with
  | ok a => rfl
  | error h => rw [h]

/-- Traversals are the same up to what the first fault may differ in. -/
theorem mapM {l : List α} {l' : List β} {f : α → Except Fault γ} {f' : β → Except Fault γ}
    (h : List.Forall₂ (fun a b => SameUpTo g (f a) (f' b)) l l') :
    SameUpTo g (l.mapM f) (l'.mapM f') := by
  induction h with
  | nil => exact .ok []
  | @cons a b l l' hab _ ih =>
    rw [mapM_cons_eq, mapM_cons_eq]
    generalize f a = x, f' b = y, l.mapM f = xs, l'.mapM f' = ys at hab ih
    cases hab with
    | error h => exact .error h
    | ok c =>
      cases ih with
      | ok cs => exact .ok (c :: cs)
      | error h => exact .error h

end SameUpTo

/-! ### What is read -/

/-- Two columns that are written alike. Comments count only if they are written. -/
structure Column.LooksLike (cfg : Config) (c d : Column) : Prop where
  name : c.name = d.name
  text : c.text cfg = d.text cfg
  remark : cfg.comments = true → c.remark? = d.remark?

/-- What is read of the parts of a key: their columns in order, and which of them are descending. -/
def KeyPart.reading (parts : List KeyPart) : List (String × Bool) :=
  (sorted parts).map fun part => (part.column, part.descending)

structure Index.LooksLike (i j : Index) : Prop where
  name : i.name = j.name
  unique : i.unique = j.unique
  keys : KeyPart.reading i.keys = KeyPart.reading j.keys
  stored : i.stored = j.stored

structure ForeignKey.LooksLike (k l : ForeignKey) : Prop where
  columns : k.columns = l.columns
  targetTable : k.targetTable = l.targetTable
  targetColumns : k.targetColumns = l.targetColumns
  name : Text.given? k.name = Text.given? l.name
  onDelete : Text.given? k.onDelete = Text.given? l.onDelete

theorem Column.LooksLike.refl (cfg : Config) (c : Column) : c.LooksLike cfg c :=
  ⟨rfl, rfl, fun _ => rfl⟩

theorem Index.LooksLike.refl (i : Index) : i.LooksLike i := ⟨rfl, rfl, rfl, rfl⟩

theorem ForeignKey.LooksLike.refl (k : ForeignKey) : k.LooksLike k := ⟨rfl, rfl, rfl, rfl, rfl⟩

/-- Two tables that are written alike if only the columns that are `seen` matter. -/
structure Table.LooksLike (cfg : Config) (seen : String → Prop) (t u : Table) : Prop where
  name : t.name = u.name
  banner : t.banner cfg = u.banner cfg
  columnIds : t.columnIds = u.columnIds
  columns : ∀ id, seen id →
    Option.Rel (Column.LooksLike cfg) (t.columns.get? id) (u.columns.get? id)
  primaryKey : KeyPart.reading t.primaryKey = KeyPart.reading u.primaryKey
  checks : t.checks.map Check.text = u.checks.map Check.text
  indexes : List.Forall₂ Index.LooksLike t.indexes u.indexes
  foreignKeys : List.Forall₂ ForeignKey.LooksLike t.foreignKeys u.foreignKeys
  parentId : t.parentId? = u.parentId?
  /-- What follows the body counts only if the parent has an id. -/
  clause : ∀ id, t.parentId? = some id →
    t.parent.map (Parent.clause cfg) = u.parent.map (Parent.clause cfg)

variable {cfg : Config} {s s' : Schema}

/-! ### Columns -/

namespace Column.LooksLike

variable {c d : Column}

theorem line_eq (h : c.LooksLike cfg d) : Body.line cfg c = Body.line cfg d := by
  rw [Body.line, Body.line, h.text]

theorem chunk_eq (h : c.LooksLike cfg d) (width : Nat) :
    Body.chunk cfg width c = Body.chunk cfg width d := by
  cases hcomments : cfg.comments with
  | false => rw [Body.chunk_without_comments hcomments, Body.chunk_without_comments hcomments,
      h.line_eq]
  | true =>
    unfold Body.chunk Body.marginText
    rw [h.line_eq, h.remark hcomments]

theorem columnLines_eq {cs ds : List Column} (h : List.Forall₂ (Column.LooksLike cfg) cs ds) :
    Body.columnLines cfg cs = Body.columnLines cfg ds := by
  have hwidth : Body.width cfg cs = Body.width cfg ds := by
    unfold Body.width
    rw [map_eq_of_forall₂ h fun c d hcd => by rw [hcd.line_eq]]
  unfold Body.columnLines
  rw [hwidth, map_eq_of_forall₂ h fun c d hcd => hcd.chunk_eq _]

end Column.LooksLike

/-! ### Keys -/

theorem KeyPart.mem_reading {parts : List KeyPart} {x : String × Bool} :
    x ∈ reading parts ↔ ∃ part ∈ parts, (part.column, part.descending) = x := by
  simp only [reading, List.mem_map, (perm_sorted parts).mem_iff]

theorem KeyPart.any_reading (parts : List KeyPart) (id : String) :
    (reading parts).any (·.1 == id) = parts.any (·.column == id) := by
  rw [reading, List.any_map]
  exact (perm_sorted parts).any_eq

/-- A part of a key as it is written, from what is read of it. -/
def Table.readText (cfg : Config) (t : Table) (x : String × Bool) : Except Fault String :=
  (t.columnName cfg x.1).map fun name => if x.2 then name ++ " DESC" else name

theorem Table.keyText_eq_reading (cfg : Config) (t : Table) (parts : List KeyPart) :
    t.keyText cfg parts =
      ((KeyPart.reading parts).mapM (t.readText cfg)).map (Text.joined ", ") := by
  rw [KeyPart.reading, List.mapM_map]
  rfl

/-! ### Lookups -/

/-- Lookups under a key agree if what the schemas hold there is related. -/
theorem Schema.agree_table {r : Table → Table → Prop} {id : String}
    (h : Option.Rel r (s.get? id) (s'.get? id)) : Agree r (s.table id) (s'.table id) := by
  unfold Schema.table
  cases ht : s.get? id with
  | none =>
    rw [eq_none_of_rel h ht]
    exact .error _
  | some t =>
    obtain ⟨u, hu, htu⟩ := exists_of_rel h ht
    rw [hu]
    exact .ok htu

namespace Table.LooksLike

variable {t u : Table} {seen : String → Prop}

theorem mono (h : t.LooksLike cfg seen u) {seen' : String → Prop} (himp : ∀ id, seen' id → seen id) :
    t.LooksLike cfg seen' u :=
  { h with columns := fun id hid => h.columns id (himp id hid) }

theorem agree_column (h : t.LooksLike cfg seen u) {id : String} (hid : seen id) :
    Agree (Column.LooksLike cfg) (t.column id) (u.column id) := by
  have hget := h.columns id hid
  cases hc : t.columns.get? id with
  | none =>
    rw [column_of_missing hc, column_of_missing (eq_none_of_rel hget hc), h.name]
    exact .error _
  | some c =>
    obtain ⟨d, hd, hcd⟩ := exists_of_rel hget hc
    rw [column_of_get? hc, column_of_get? hd]
    exact .ok hcd

theorem agree_columns (h : t.LooksLike cfg seen u) {ids : List String} (hids : ∀ id ∈ ids, seen id) :
    Agree (List.Forall₂ (Column.LooksLike cfg)) (ids.mapM t.column) (ids.mapM u.column) := by
  have hsame : List.Forall₂ (fun a b => a = b ∧ seen a) ids ids :=
    List.forall₂_same.mpr fun id hid => ⟨rfl, hids id hid⟩
  refine Agree.mapM hsame fun a b hab => ?_
  obtain ⟨rfl, ha⟩ := hab
  exact h.agree_column ha

theorem columnName_eq (h : t.LooksLike cfg seen u) {id : String} (hid : seen id) :
    t.columnName cfg id = u.columnName cfg id :=
  (h.agree_column hid).map_eq fun _ _ hcd => by rw [hcd.name]

theorem columnNames_eq (h : t.LooksLike cfg seen u) {ids : List String}
    (hids : ∀ id ∈ ids, seen id) : t.columnNames cfg ids = u.columnNames cfg ids := by
  have hnames : ids.mapM (t.columnName cfg) = ids.mapM (u.columnName cfg) :=
    mapM_congr fun id hid => h.columnName_eq (hids id hid)
  rw [columnNames, hnames, columnNames]

theorem keyText_eq (h : t.LooksLike cfg seen u) {parts parts' : List KeyPart}
    (hreading : KeyPart.reading parts = KeyPart.reading parts')
    (hparts : ∀ part ∈ parts, seen part.column) : t.keyText cfg parts = u.keyText cfg parts' := by
  have hpieces : (KeyPart.reading parts).mapM (t.readText cfg) =
      (KeyPart.reading parts).mapM (u.readText cfg) := by
    refine mapM_congr fun x hx => ?_
    obtain ⟨part, hpart, rfl⟩ := KeyPart.mem_reading.mp hx
    rw [readText, readText, h.columnName_eq (hparts part hpart)]
  rw [keyText_eq_reading, hpieces, keyText_eq_reading, hreading]

theorem isKeyColumn_eq (h : t.LooksLike cfg seen u) (id : String) :
    t.isKeyColumn id = u.isKeyColumn id := by
  rw [isKeyColumn, isKeyColumn, ← KeyPart.any_reading, h.primaryKey, KeyPart.any_reading]

theorem storingClause_eq (h : t.LooksLike cfg seen u) {i j : Index} (hij : i.LooksLike j)
    (hids : ∀ id ∈ i.extraColumns t, seen id) :
    i.storingClause cfg t = j.storingClause cfg u := by
  have hextra : j.extraColumns u = i.extraColumns t := by
    simp only [Index.extraColumns, hij.stored, h.isKeyColumn_eq]
  unfold Index.storingClause
  rw [hextra]
  cases hids' : i.extraColumns t with
  | nil => rfl
  | cons id ids =>
    rw [hids'] at hids
    exact congrArg (Except.map _) (h.columnNames_eq hids)

/-! ### Statements of a table -/

theorem createIndex_eq (h : t.LooksLike cfg seen u) {i j : Index} (hij : i.LooksLike j)
    (hkeys : ∀ part ∈ i.keys, seen part.column) (hids : ∀ id ∈ i.extraColumns t, seen id) :
    (i.create cfg t).outcome = (j.create cfg u).outcome := by
  have htext : i.createText cfg t = j.createText cfg u := by
    funext keys storing
    unfold Index.createText
    rw [hij.unique, hij.name, h.name]
  rw [Index.outcome_create, Index.outcome_create, h.keyText_eq hij.keys hkeys,
    h.storingClause_eq hij hids, htext]

end Table.LooksLike

theorem checkLines_congr {checks checks' : List Check}
    (h : checks.map Check.text = checks'.map Check.text) (d : Dialect) :
    checkLines d checks = checkLines d checks' := by
  have hlines : checks.map (fun k => "\t" ++ k.text) = checks'.map fun k => "\t" ++ k.text := by
    have hmap := congrArg (List.map ("\t" ++ ·)) h
    rwa [List.map_map, List.map_map] at hmap
  cases checks with
  | nil => rw [List.map_eq_nil_iff.mp h.symm]
  | cons k rest =>
    cases checks' with
    | nil => cases h
    | cons k' rest' =>
      show Text.joined _ _ ++ _ = Text.joined _ _ ++ _
      rw [hlines]

/-- The statement of a table, if what follows its body is the same. -/
theorem Table.LooksLike.create_eq {t u : Table} {seen : String → Prop}
    (h : t.LooksLike cfg seen u) (hids : ∀ id ∈ t.columnIds, seen id)
    (hkey : ∀ part ∈ t.primaryKey, seen part.column)
    (hclause : t.interleavingText cfg s = u.interleavingText cfg s') :
    (t.create cfg s).outcome = (u.create cfg s').outcome := by
  rw [outcome_create, outcome_create, ← h.columnIds]
  refine (h.agree_columns hids).bind_eq fun cs ds hcds => ?_
  rw [h.keyText_eq h.primaryKey hkey]
  refine congrArg (Except.map · _) (funext fun keys => ?_)
  rw [createText, createText, h.banner, h.name, Column.LooksLike.columnLines_eq hcds,
    checkLines_congr h.checks, hclause]

/-! ### Foreign keys -/

section ForeignKeys
variable {t u : Table} {k l : ForeignKey} {seen : String → Prop} {g : Fault → Fault → Prop}

theorem ForeignKey.LooksLike.constraintText_eq (h : k.LooksLike l) {target target' : Table}
    (hname : target.name = target'.name) :
    k.constraintText cfg target = l.constraintText cfg target' := by
  funext columns targets
  rw [constraintText, constraintText, nameClause, nameClause, actionClause, actionClause, h.name,
    h.onDelete, hname]

/-- Two tables of which the columns that a foreign key refers to look alike. -/
def ForeignKey.SameTarget (cfg : Config) (k : ForeignKey) (target target' : Table) : Prop :=
  target.LooksLike cfg (· ∈ k.targetColumns) target'

theorem Table.LooksLike.constraint_eq (h : t.LooksLike cfg seen u) (hkl : k.LooksLike l)
    (hids : ∀ id ∈ k.columns, seen id)
    (htarget : Agree (k.SameTarget cfg) (s.table k.targetTable) (s'.table k.targetTable))
    (heven : k.columns.length = k.targetColumns.length) :
    k.constraint cfg s t = l.constraint cfg s' u := by
  have heven' : l.columns.length = l.targetColumns.length := by
    rwa [← hkl.columns, ← hkl.targetColumns]
  rw [ForeignKey.constraint_of_even heven, ForeignKey.constraint_of_even heven', ← hkl.targetTable]
  refine htarget.bind_eq fun target target' htarget => ?_
  rw [← hkl.columns, ← hkl.targetColumns, h.columnNames_eq hids,
    htarget.columnNames_eq fun id hid => hid, hkl.constraintText_eq htarget.name]

/-- The statements of foreign keys that look alike; if their columns do not fit those they refer to,
the faults about that are to be related. -/
theorem Table.LooksLike.addForeignKey_alike (h : t.LooksLike cfg seen u) (hkl : k.LooksLike l)
    (hids : ∀ id ∈ k.columns, seen id)
    (htarget : Agree (k.SameTarget cfg) (s.table k.targetTable) (s'.table k.targetTable))
    (hg : ∀ f, g f f)
    (hfault : k.columns.length ≠ k.targetColumns.length →
      g (.unevenForeignKey t.name k.title k.columns.length k.targetColumns.length)
        (.unevenForeignKey t.name l.title k.columns.length k.targetColumns.length)) :
    SameUpTo g (k.add cfg s t).outcome (l.add cfg s' u).outcome := by
  rw [ForeignKey.outcome_add, ForeignKey.outcome_add, ← h.name]
  by_cases heven : k.columns.length = k.targetColumns.length
  · rw [h.constraint_eq hkl hids htarget heven]
    exact .of_eq hg rfl
  · have heven' : l.columns.length ≠ l.targetColumns.length := by
      rwa [← hkl.columns, ← hkl.targetColumns]
    rw [ForeignKey.constraint_of_uneven heven, ForeignKey.constraint_of_uneven heven',
      ← hkl.columns, ← hkl.targetColumns, ← h.name]
    exact .error (hfault heven)

end ForeignKeys

/-! ### Sequences -/

namespace Sequence

variable {r : Sequence → Sequence → Prop} {a b : Keyed Sequence}

/-- No two sequences, under different keys, share both name and id. -/
def Distinct (sequences : Keyed Sequence) : Prop :=
  ∀ a ∈ sequences.entries, ∀ b ∈ sequences.entries,
    a.2.name = b.2.name → a.2.id = b.2.id → a.1 = b.1

instance (sequences : Keyed Sequence) : Decidable (Distinct sequences) :=
  inferInstanceAs (Decidable (∀ a ∈ sequences.entries, ∀ b ∈ sequences.entries,
    a.2.name = b.2.name → a.2.id = b.2.id → a.1 = b.1))

/-- Where a sequence stands by name, and by id among sequences of one name. -/
def place (q : Sequence) : String ×ₗ String := toLex (q.name, q.id)

theorem before_iff (q p : Sequence) : before q p = true ↔ place q ≤ place p := by
  simp only [before, place, Bool.or_eq_true, Bool.and_eq_true, decide_eq_true_eq, beq_iff_eq,
    Prod.Lex.toLex_le_toLex]

/-- Sequences that are so related stand in the same place and are written alike. -/
structure WrittenAlike (cfg : Config) (r : Sequence → Sequence → Prop) : Prop where
  place : ∀ q p, r q p → q.place = p.place
  text : ∀ q p, r q p → q.createText cfg = p.createText cfg

theorem writtenAlike_eq (cfg : Config) : WrittenAlike cfg (· = ·) where
  place _ _ h := congrArg Sequence.place h
  text _ _ h := congrArg (createText cfg) h

/-- Related sequences, one by one, under whatever keys. They are enumerated alike, or in any order if
their names and ids tell them apart. -/
def Alike (r : Sequence → Sequence → Prop) (a b : Keyed Sequence) : Prop :=
  List.Forall₂ r a.values b.values ∨
    Distinct a ∧ ∃ l, List.Forall₂ r a.values l ∧ l.Perm b.values

theorem Distinct.nodup_places (h : Distinct a) : (a.values.map place).Nodup := by
  rw [Keyed.values, List.map_map]
  refine List.Nodup.map_on (fun x hx y hy hxy => ?_) (.of_map _ a.distinct)
  obtain ⟨hname, hid⟩ := Prod.mk.inj (toLex.injective hxy)
  have hkey := h x hx y hy hname hid
  have hget := a.get?_eq_some_iff.mpr hx
  rw [hkey, a.get?_eq_some_iff.mpr hy, Option.some.injEq] at hget
  exact Prod.ext hkey hget.symm

/-- Such sequences come in one order by name and id. -/
theorem Alike.sorted (h : Alike r a b) (hr : WrittenAlike cfg r) :
    List.Forall₂ r (a.values.mergeSort before) (b.values.mergeSort before) := by
  have hbefore (q p : Sequence) (hqp : r q p) (q' p' : Sequence) (hqp' : r q' p') :
      before q q' = before p p' := by
    rw [Bool.eq_iff_iff, before_iff, before_iff, hr.place q p hqp, hr.place q' p' hqp']
  rcases h with hvalues | ⟨hdistinct, l, hvalues, hperm⟩
  · exact forall₂_mergeSort hvalues hbefore
  · have hplaces : (l.map place).Nodup := by
      rw [← map_eq_of_forall₂ hvalues hr.place]
      exact hdistinct.nodup_places
    have hsorted := forall₂_mergeSort hvalues hbefore
    have hinj := List.inj_on_of_nodup_map hplaces
    rwa [mergeSort_eq_of_perm before_iff
      (fun _ hx _ hy => hinj (hperm.mem_iff.mpr hx) (hperm.mem_iff.mpr hy)) hperm] at hsorted

end Sequence

end SchemaScript
