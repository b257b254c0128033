import SchemaScript.Proofs.Counterparts

/-! The order of key parts.

The parts of a key are written by ascending order, and those of equal order as they were declared.
There is one such arrangement of them (`KeyPart.arranged_iff`). So neither where parts with orders of
their own stand in their list nor how great the orders are shows in a script, only which part comes
before which (`key_parts_go_by_order`). -/
namespace SchemaScript

namespace KeyPart

variable {parts parts' arranged : List KeyPart}

/-! ### One arrangement -/

/-- The parts by ascending order, and parts of equal order as they were declared. -/
structure Arranged (parts arranged : List KeyPart) : Prop where
  perm : arranged.Perm parts
  ascending : arranged.Pairwise fun a b => a.order ≤ b.order
  stable : ∀ order : Int32,
    arranged.filter (fun part => part.order = order) = parts.filter fun part => part.order = order

theorem order_le_iff (a b : KeyPart) :
    decide (a.order ≤ b.order) = true ↔ a.order.toInt ≤ b.order.toInt := by
  rw [decide_eq_true_eq, Int32.le_iff_toInt_le]

theorem arranged_sorted (parts : List KeyPart) : Arranged parts (sorted parts) where
  perm := perm_sorted parts
  ascending := (pairwise_mergeSort_of_place order_le_iff parts).imp of_decide_eq_true
  stable order := filter_mergeSort_of_place order_le_iff fun a b ha hb => by
    rw [order_le_iff, of_decide_eq_true ha, of_decide_eq_true hb]

/-- **Sorting is the one way to arrange the parts of a key.** -/
theorem arranged_iff : Arranged parts arranged ↔ arranged = sorted parts := by
  constructor
  · intro h
    have hsorted := arranged_sorted parts
    refine eq_of_filter_place_eq (h.ascending.imp Int32.le_iff_toInt_le.mp)
      (hsorted.ascending.imp Int32.le_iff_toInt_le.mp) fun part => ?_
    simp only [Int32.toInt_inj]
    rw [h.stable, hsorted.stable]
  · intro h
    rw [h]
    exact arranged_sorted parts

/-! ### The same key -/

/-- Another list for the same key: the parts in another order of declaration, if no two of them have
the same order, or with other orders that compare as they did. -/
inductive Redeclares (parts : List KeyPart) : List KeyPart → Prop
  | permuted {parts' : List KeyPart} (hperm : parts.Perm parts')
      (hdistinct : (parts.map KeyPart.order).Nodup) : Redeclares parts parts'
  | renumbered (f : Int32 → Int32)
      (hf : ∀ a ∈ parts, ∀ b ∈ parts, a.order < b.order → f a.order < f b.order) :
      Redeclares parts (parts.map fun part => { part with order := f part.order })

theorem sorted_of_perm (hperm : parts.Perm parts') (hdistinct : (parts.map KeyPart.order).Nodup) :
    sorted parts = sorted parts' := by
  have hinj := List.inj_on_of_nodup_map hdistinct
  refine mergeSort_eq_of_perm order_le_iff (fun a ha b hb hab => ?_) hperm
  exact hinj (hperm.mem_iff.mpr ha) (hperm.mem_iff.mpr hb) (Int32.toInt_inj.mp hab)

theorem sorted_renumbered {f : Int32 → Int32}
    (hf : ∀ a ∈ parts, ∀ b ∈ parts, a.order < b.order → f a.order < f b.order) :
    sorted (parts.map fun part => { part with order := f part.order }) =
      (sorted parts).map fun part => { part with order := f part.order } := by
  refine (List.map_mergeSort fun a ha b hb => decide_eq_decide.mpr ?_).symm
  constructor
  · intro hab
    by_cases heq : a.order = b.order
    · simp only [heq, Int32.le_refl]
    · exact Int32.le_of_lt (hf a ha b hb (Int32.lt_of_le_of_ne hab heq))
  · intro hab
    by_contra hnot
    exact Int32.not_le.mpr (hf b hb a ha (Int32.not_le.mp hnot)) hab

theorem Redeclares.reading_eq (h : Redeclares parts parts') : reading parts = reading parts' := by
  cases h with
  | permuted hperm hdistinct => rw [reading, sorted_of_perm hperm hdistinct, reading]
  | renumbered f hf =>
    rw [reading, reading, sorted_renumbered hf, List.map_map]
    rfl

theorem Redeclares.refl (parts : List KeyPart) : Redeclares parts parts := by
  have hsame : Redeclares parts (parts.map id) := .renumbered id fun _ _ _ _ hab => hab
  rwa [List.map_id] at hsame

end KeyPart

/-- The same index but for how its key is declared. -/
def Index.Redeclares (i j : Index) : Prop :=
  ∃ keys, KeyPart.Redeclares i.keys keys ∧ j = { i with keys }

/-- The same table but for how its key and those of its indexes are declared. -/
def Table.Redeclares (t u : Table) : Prop :=
  ∃ primaryKey indexes, KeyPart.Redeclares t.primaryKey primaryKey ∧
    List.Forall₂ Index.Redeclares t.indexes indexes ∧ u = { t with primaryKey, indexes }

/-- The same tables, each under the key it had, but for how keys are declared. -/
def Schema.Redeclares (s s' : Schema) : Prop :=
  ∀ key, Option.Rel Table.Redeclares (s.get? key) (s'.get? key)

/-! ### Scripts are as before -/

theorem Index.Redeclares.looksLike {i j : Index} (h : i.Redeclares j) : i.LooksLike j := by
  obtain ⟨keys, hkeys, rfl⟩ := h
  exact ⟨rfl, rfl, hkeys.reading_eq, rfl⟩

theorem Table.Redeclares.looksLike {t u : Table} (h : t.Redeclares u) (cfg : Config)
    (seen : String → Prop) : t.LooksLike cfg seen u := by
  obtain ⟨primaryKey, indexes, hkey, hindexes, rfl⟩ := h
  exact {
    name := rfl
    banner := rfl
    columnIds := rfl
    columns := fun id _ => by
      cases t.columns.get? id with
      | none => exact .none
      | some c => exact .some (Column.LooksLike.refl cfg c)
    primaryKey := hkey.reading_eq
    checks := rfl
    indexes := hindexes.imp fun _ _ hij => hij.looksLike
    foreignKeys := List.forall₂_same.mpr fun k _ => ForeignKey.LooksLike.refl k
    parentId := rfl
    clause := fun _ _ => rfl }

theorem Schema.Redeclares.looksLike {s s' : Schema} (h : s.Redeclares s') (cfg : Config) :
    s.LooksLike cfg s' := fun key =>
  rel_imp (h key) fun _ _ htu => htu.looksLike cfg _

theorem Schema.Redeclares.title_eq {s s' : Schema} (h : s.Redeclares s') {e : String × Table}
    (he : e ∈ s.entries) {k l : ForeignKey}
    (hkl : (k, l) ∈ e.2.foreignKeys.zip (s'.counterpart e).2.foreignKeys) : k.title = l.title := by
  obtain ⟨_, _, _, _, htable⟩ := (counterpart_of_rel (h e.1) he).2
  have hsame : List.Forall₂ (· = ·) e.2.foreignKeys (s'.counterpart e).2.foreignKeys := by
    rw [htable]
    exact List.forall₂_refl _
  exact congrArg ForeignKey.title (List.forall₂_zip hsame hkl)

open Script in
/-- **The parts of a key go by their orders alone.** Neither where they are declared nor what their
orders are shows in a script, as long as they compare as they did. There is one way to arrange the
parts of a key, and in it each of them is written once. -/
theorem key_parts_go_by_order (cfg : Config) (sequences : Keyed Sequence) :
    (∀ s s' : Schema, s.Redeclares s' → texts cfg s sequences = texts cfg s' sequences) ∧
      ∀ parts : List KeyPart,
        (∀ arranged, KeyPart.Arranged parts arranged ↔ arranged = KeyPart.sorted parts) ∧
          ∀ (t : Table) (keys : String), t.keyText cfg parts = .ok keys ↔
            ∃ pieces, List.Forall₂ (fun part piece => t.keyPartText cfg part = .ok piece)
              (KeyPart.sorted parts) pieces ∧ Text.joined ", " pieces = keys := by
  refine ⟨fun s s' h => ?_, fun parts => ⟨fun _ => KeyPart.arranged_iff, fun t keys => ?_⟩⟩
  · exact texts_eq_of_looksLike (h.looksLike cfg) (fun e he k l hkl => h.title_eq he hkl)
      (Sequence.writtenAlike_eq cfg) (.inl (List.forall₂_refl _))
  · rw [Table.keyText, map_eq_ok_iff]
    simp only [mapM_eq_ok_iff]

/-! ### A key declared twice -/

/-- A table with a key and an index of these parts, and an index by its key. -/
def Table.ranked (primaryKey keys : List KeyPart) : Table :=
  { ((named "t1" "Singers").withColumn { id := "c1", name := "Id", type := .ofBase .int64 }).withColumn
      { id := "c2", name := "Born", type := .ofBase .date } with
    primaryKey
    indexes := [{ id := "i1", name := "ByAge", tableId := "t1", keys },
      { id := "i2", name := "ById", tableId := "t1", keys := [{ column := "c1", order := 1 }] }] }

def Schema.ranked (primaryKey keys : List KeyPart) : Schema :=
  { tables := Keyed.ofList [("t1", Table.ranked primaryKey keys)] }

theorem Schema.redeclares_ranked {primaryKey primaryKey' keys keys' : List KeyPart}
    (hkey : KeyPart.Redeclares primaryKey primaryKey') (hkeys : KeyPart.Redeclares keys keys') :
    (ranked primaryKey keys).Redeclares (ranked primaryKey' keys') := by
  have htable : (Table.ranked primaryKey keys).Redeclares (Table.ranked primaryKey' keys') :=
    ⟨primaryKey', _, hkey, .cons ⟨keys', hkeys, rfl⟩ (.cons ⟨_, .refl _, rfl⟩ .nil), rfl⟩
  have htables : (ranked primaryKey keys).tables.ReordersBy Table.Redeclares
      (ranked primaryKey' keys').tables :=
    ⟨(ranked primaryKey' keys').entries, .cons ⟨rfl, htable⟩ .nil, .refl _⟩
  exact fun key => htables.get? key

/-- Two parts in the order of their declaration. -/
def Schema.counted : Schema :=
  ranked [⟨"c1", false, 1⟩, ⟨"c2", false, 2⟩] [⟨"c2", true, 5⟩, ⟨"c1", false, 7⟩]

/-- The parts of the key declared the other way round, and those of the index with orders below zero. -/
def Schema.recounted : Schema :=
  ranked [⟨"c2", false, 2⟩, ⟨"c1", false, 1⟩] [⟨"c2", true, -5⟩, ⟨"c1", false, -3⟩]

open Script Schema in
theorem key_parts_go_by_order_counted :
    counted.Redeclares recounted ∧ texts {} counted ∅ = texts {} recounted ∅ := by
  have hkey : KeyPart.Redeclares [⟨"c1", false, 1⟩, ⟨"c2", false, 2⟩]
      [⟨"c2", false, 2⟩, ⟨"c1", false, 1⟩] := .permuted (.swap _ _ _) (by decide)
  have hkeys : KeyPart.Redeclares [⟨"c2", true, 5⟩, ⟨"c1", false, 7⟩]
      [⟨"c2", true, -5⟩, ⟨"c1", false, -3⟩] := .renumbered (· - 10) (by decide)
  have hschema : counted.Redeclares recounted := redeclares_ranked hkey hkeys
  exact ⟨hschema, (key_parts_go_by_order {} ∅).1 _ _ hschema⟩

end SchemaScript
