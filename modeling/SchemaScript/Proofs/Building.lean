import SchemaScript.Proofs.Blame
import SchemaScript.Proofs.History
import SchemaScript.Proofs.Renaming

/-! Schemas put together piece by piece.

A table starts with nothing in it, and columns, keys and the rest are added to it one after another
(`Table.built`); a foreign key starts without columns and takes them in pairs (`ForeignKey.built`).
Whatever the additions, a table defines every column it lists, and the two lists of a foreign key match.
So no script of such tables fails for an uneven foreign key, and a column that it misses was never
added (`built_schemas_are_sound`). -/
namespace SchemaScript

/-- What one addition preserves, with the item that it brings, many additions preserve. -/
theorem foldl_collects {σ ι β : Type} {apply : σ → ι → σ} {item? : ι → Option β}
    (Holds : σ → List β → Prop)
    (hstep : ∀ s items a, Holds s items → Holds (apply s a) (items ++ (item? a).toList))
    {s : σ} {items : List β} (h : Holds s items) (additions : List ι) :
    Holds (additions.foldl apply s) (items ++ additions.filterMap item?) := by
  induction additions generalizing s items with
  | nil => rwa [List.filterMap_nil, List.append_nil]
  | cons a additions ih =>
    have hcons : (a :: additions).filterMap item? = (item? a).toList ++ additions.filterMap item? := by
      rw [List.filterMap_cons]
      cases item? a <;> rfl
    rw [List.foldl_cons, hcons, ← List.append_assoc]
    exact ih (hstep s items a h)

/-! ### Foreign keys -/

namespace ForeignKey

inductive Addition where
  | name (text : String)
  | pair (column target : String)
  | onDelete (action : String)
  | onUpdate (action : String)

def Addition.apply (k : ForeignKey) : Addition → ForeignKey
  | name text => k.withName text
  | pair column target => k.pair column target
  | onDelete action => k.withOnDelete action
  | onUpdate action => k.withOnUpdate action

def Addition.pair? : Addition → Option (String × String)
  | pair column target => some (column, target)
  | _ => none

/-- The pairs of columns among some additions. -/
def pairsOf (additions : List Addition) : List (String × String) := additions.filterMap Addition.pair?

/-- The foreign key that comes of adding to one that has no columns. -/
def built (id targetTable : String) (additions : List Addition) : ForeignKey :=
  additions.foldl Addition.apply (toTable id targetTable)

def IsBuilt (k : ForeignKey) : Prop := ∃ id targetTable additions, k = built id targetTable additions

/-- The two lists of columns are those of some pairs. -/
structure Matches (k : ForeignKey) (pairs : List (String × String)) : Prop where
  columns : k.columns = pairs.map Prod.fst
  targets : k.targetColumns = pairs.map Prod.snd

variable {k : ForeignKey} {pairs : List (String × String)}

/-- One addition brings one more pair, or none. -/
theorem Matches.apply (h : k.Matches pairs) (a : Addition) :
    (a.apply k).Matches (pairs ++ a.pair?.toList) := by
  cases a with
  | pair column target =>
    constructor
    · show k.columns ++ [column] = (pairs ++ [(column, target)]).map Prod.fst
      rw [h.columns, List.map_append]
      rfl
    · show k.targetColumns ++ [target] = (pairs ++ [(column, target)]).map Prod.snd
      rw [h.targets, List.map_append]
      rfl
  | name | onDelete | onUpdate =>
    show Matches _ (pairs ++ [])
    rw [List.append_nil]
    exact ⟨h.columns, h.targets⟩

theorem matches_built (id targetTable : String) (additions : List Addition) :
    (built id targetTable additions).Matches (pairsOf additions) := by
  have hstart : (toTable id targetTable).Matches [] := ⟨rfl, rfl⟩
  exact foldl_collects Matches (fun _ _ a h => h.apply a) hstart additions

theorem Matches.even (h : k.Matches pairs) : k.columns.length = k.targetColumns.length := by
  rw [h.columns, h.targets, List.length_map, List.length_map]

theorem Matches.zip_eq (h : k.Matches pairs) : k.columns.zip k.targetColumns = pairs := by
  rw [h.columns, h.targets, List.zip_map', List.map_id']

theorem IsBuilt.even (h : k.IsBuilt) : k.columns.length = k.targetColumns.length := by
  obtain ⟨id, targetTable, additions, rfl⟩ := h
  exact (matches_built id targetTable additions).even

end ForeignKey

/-! ### Tables -/

namespace Table

inductive Addition where
  | column (c : Column)
  | keyPart (part : KeyPart)
  | foreignKey (k : ForeignKey)
  | index (i : Index)
  | check (k : Check)
  | parent (p : Parent)
  | comment (text : String)

def Addition.apply (t : Table) : Addition → Table
  | column c => t.withColumn c
  | keyPart part => t.withKeyPart part
  | foreignKey k => t.withForeignKey k
  | index i => t.withIndex i
  | check k => t.withCheck k
  | parent p => t.interleavedIn p
  | comment text => t.withComment text

def Addition.column? : Addition → Option Column
  | column c => some c
  | _ => none

/-- The columns among some additions. -/
def columnsOf (additions : List Addition) : List Column := additions.filterMap Addition.column?

/-- The table that comes of adding to one that has nothing in it. -/
def built (id name : String) (additions : List Addition) : Table :=
  additions.foldl Addition.apply (named id name)

/-- Whether a table and its foreign keys have come about by additions alone. -/
def IsBuilt (t : Table) : Prop :=
  (∃ id name additions, t = built id name additions) ∧ ∀ k ∈ t.foreignKeys, k.IsBuilt

/-- The table lists the ids of some columns, and each id stands for the last column that has it. -/
structure Defines (t : Table) (columns : List Column) : Prop where
  listed : t.columnIds = columns.map Column.id
  last : ∀ id, t.columns.get? id = lastBy Column.id columns id

variable {t : Table} {columns : List Column}

/-- One addition brings one more column, or none. -/
theorem Defines.apply (h : t.Defines columns) (a : Addition) :
    (a.apply t).Defines (columns ++ a.column?.toList) := by
  cases a with
  | column c =>
    constructor
    · show t.columnIds ++ [c.id] = (columns ++ [c]).map Column.id
      rw [h.listed, List.map_append]
      rfl
    · intro id
      show (t.columns.insert c.id c).get? id = lastBy Column.id (columns ++ [c]) id
      rw [Keyed.get?_insert, lastBy_append, lastBy_singleton, h.last]
      by_cases hid : c.id = id
      · rw [if_pos hid.symm, if_pos hid]
        rfl
      · rw [if_neg (Ne.symm hid), if_neg hid, Option.none_or]
  | keyPart | foreignKey | index | check | parent | comment =>
    show Defines _ (columns ++ [])
    rw [List.append_nil]
    exact ⟨h.listed, h.last⟩

theorem defines_built (id name : String) (additions : List Addition) :
    (built id name additions).Defines (columnsOf additions) := by
  have hstart : (named id name).Defines [] := ⟨rfl, fun _ => rfl⟩
  exact foldl_collects Defines (fun _ _ a h => h.apply a) hstart additions

theorem Defines.contains_iff (h : t.Defines columns) (id : String) :
    t.columns.contains id = true ↔ ∃ c ∈ columns, c.id = id := by
  rw [Keyed.contains, h.last, Option.isSome_iff_ne_none, Ne, lastBy_eq_none_iff]
  simp

theorem Defines.contains_of_listed (h : t.Defines columns) {id : String} (hid : id ∈ t.columnIds) :
    t.columns.contains id = true := by
  rw [h.listed, List.mem_map] at hid
  exact (h.contains_iff id).mpr hid

theorem Defines.id_eq (h : t.Defines columns) {id : String} {c : Column}
    (hc : t.columns.get? id = some c) : c.id = id := by
  rw [h.last, lastBy_eq_some_iff] at hc
  exact hc.1

end Table

/-! ### Scripts -/

/-- What cannot go wrong with a schema of built tables. -/
structure Schema.IsSound (s : Schema) : Prop where
  even : ∀ cfg sequences table name columns targets,
    (Script.generate cfg s sequences).outcome ≠
      .error (.unevenForeignKey table name columns targets)
  /-- A column that is missed was never added to the one table of the name that the fault gives,
  however that table was built. -/
  neverAdded : s.NamesDiffer → ∀ cfg sequences table column,
    (Script.generate cfg s sequences).outcome = .error (.missingColumn table column) →
      ∃ e ∈ s.entries, e.2.name = table ∧ (∀ a ∈ s.entries, a.2.name = table → a = e) ∧
        ∀ id name additions, e.2 = Table.built id name additions →
          ∀ c ∈ Table.columnsOf additions, c.id ≠ column

theorem Schema.isSound {s : Schema} (h : ∀ e ∈ s.entries, e.2.IsBuilt) : s.IsSound where
  even cfg sequences table name columns targets hfault := by
    obtain ⟨_, huneven, e, he, _, k, hk, rfl, rfl, _⟩ := Script.isTrueOf_of_error hfault
    exact huneven ((h e he).2 k hk).even
  neverAdded hnames cfg sequences table column hfault := by
    obtain ⟨e, he, rfl, hmissing, _⟩ := Script.isTrueOf_of_error hfault
    refine ⟨e, he, rfl, fun a ha hname => hnames.eq_of_name_eq ha he hname, ?_⟩
    intro id name additions hbuilt c hc hid
    have hdefines := Table.defines_built id name additions
    rw [← hbuilt] at hdefines
    rw [(hdefines.contains_iff column).mpr ⟨c, hc, hid⟩] at hmissing
    cases hmissing

/-- **What is put together piece by piece has its pieces**: tables their columns, foreign keys their
pairs, and no script of such tables misses a column that was added. -/
theorem built_schemas_are_sound :
    (∀ id name additions, let t := Table.built id name additions
      (∀ id ∈ t.columnIds, t.columns.contains id = true) ∧
        (∀ id c, t.columns.get? id = some c → c.id = id) ∧
          ∀ id, t.columns.get? id = lastBy Column.id (Table.columnsOf additions) id) ∧
      (∀ id targetTable additions, let k := ForeignKey.built id targetTable additions
        k.columns.length = k.targetColumns.length ∧
          k.columns.zip k.targetColumns = ForeignKey.pairsOf additions) ∧
        ∀ h, (∀ t ∈ Schema.added h, t.IsBuilt) → (Schema.after h).IsSound := by
  refine ⟨fun id name additions => ?_, fun id targetTable additions => ?_, fun h hbuilt => ?_⟩
  · have hdefines := Table.defines_built id name additions
    exact ⟨fun _ => hdefines.contains_of_listed, fun _ _ => hdefines.id_eq, hdefines.last⟩
  · have hmatches := ForeignKey.matches_built id targetTable additions
    exact ⟨hmatches.even, hmatches.zip_eq⟩
  · exact Schema.isSound fun e he => hbuilt e.2 (Schema.mem_added he)

/-- Two tables, one of them added twice. The other one has a foreign key to a column that was never
added. -/
def Schema.pieces : List Schema.Step :=
  let title : Column := { id := "c1", name := "Title", type := .ofBase .string }
  let track : ForeignKey := .built "f1" "t1" [.pair "c1" "c9", .name "FK_Album"]
  [.renew [.built "t1" "Albums" [.column title]],
    .extend [.built "t2" "Songs" [.foreignKey track, .column title]],
    .insert (.built "t1" "Albums" [.column title, .column title.required])]

def Schema.assembled : Schema := after pieces

theorem built_schemas_are_sound_assembled :
    (∀ t ∈ Schema.added Schema.pieces, t.IsBuilt) ∧ Schema.assembled.NamesDiffer ∧
      (Script.generate { tables := false } Schema.assembled ∅).outcome =
        .error (.missingColumn "Albums" "c9") ∧ Schema.assembled.IsSound := by
  have hbuilt : ∀ t ∈ Schema.added Schema.pieces, t.IsBuilt := by
    refine List.forall_mem_cons.mpr ⟨?albums, List.forall_mem_cons.mpr ⟨?songs,
      List.forall_mem_singleton.mpr ?again⟩⟩
    case albums => exact ⟨⟨_, _, _, rfl⟩, nofun⟩
    case songs => exact ⟨⟨_, _, _, rfl⟩, List.forall_mem_singleton.mpr ⟨_, _, _, rfl⟩⟩
    case again => exact ⟨⟨_, _, _, rfl⟩, nofun⟩
  have hall : ∀ e ∈ Schema.assembled.entries, Schema.assembled.onChain? e 1 = none := by decide
  have hname : Schema.assembled.byName = Schema.assembled.entries :=
    List.mergeSort_of_pairwise (by decide)
  have hfault : (Script.generate { tables := false } Schema.assembled ∅).outcome =
      .error (.missingColumn "Albums" "c9") := by
    refine Script.generate_eq_error_iff.mpr (.inr ⟨fun e he => ⟨1, hall e he⟩, ?_⟩)
    rw [Script.findSome?_fault?_subjects, Schema.placedOrder, hname]
    rfl
  exact ⟨hbuilt, by decide, hfault, built_schemas_are_sound.2.2 Schema.pieces hbuilt⟩

end SchemaScript
