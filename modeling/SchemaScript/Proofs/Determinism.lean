import SchemaScript.Proofs.Counterparts

/-! The script does not depend on how maps are enumerated.

Columns, tables and schemas that differ only in the order of their maps look alike, so they are written
alike (`Subject.Reorders.write_eq`) and in the same order: tables by name and key, and sequences by
name and id, if no two sequences share both (`Sequence.Distinct`). So the same maps give the same
script, or the same fault (`reordering_is_invisible`). -/
namespace SchemaScript

variable {cfg : Config} {s s' : Schema}

/-! ### Reordered maps look alike -/

theorem Column.Reorders.looksLike {c d : Column} (h : c.Reorders d) : c.LooksLike cfg d := by
  obtain ⟨options, hoptions, rfl⟩ := h
  have htext : c.optionsText = ({ c with options } : Column).optionsText := by
    unfold Column.optionsText Column.cassandraType?
    rw [hoptions.get?_eq]
  refine ⟨rfl, ?_, fun _ => rfl⟩
  rw [Column.text, htext]
  rfl

theorem Table.Reorders.looksLike {t u : Table} (h : t.Reorders u) (seen : String → Prop) :
    t.LooksLike cfg seen u := by
  obtain ⟨columns, hcolumns, rfl⟩ := h
  exact {
    name := rfl
    banner := rfl
    columnIds := rfl
    columns := fun id _ => rel_imp (hcolumns.get? id) fun _ _ hcd => hcd.looksLike
    primaryKey := rfl
    checks := rfl
    indexes := List.forall₂_same.mpr fun i _ => .refl i
    foreignKeys := List.forall₂_same.mpr fun k _ => .refl k
    parentId := rfl
    clause := fun _ _ => rfl }

theorem Schema.Reorders.get? (hs : s.Reorders s') (key : String) :
    Option.Rel Table.Reorders (s.get? key) (s'.get? key) := Keyed.ReordersBy.get? hs key

theorem Schema.Reorders.looksLike (hs : s.Reorders s') (cfg : Config) : s.LooksLike cfg s' :=
  fun key => rel_imp (hs.get? key) fun _ _ htu => htu.looksLike _

/-! ### The order of tables -/

namespace Schema

/-- **Tables come in the same order, or the same circle is reported.** -/
theorem inOrder_reorders (hs : s.Reorders s') :
    Agree (List.Forall₂ SameEntry) s.inOrder s'.inOrder := by
  rw [(hs.looksLike {}).inOrder_eq]
  cases horder : s.inOrder with
  | error f => exact .error f
  | ok order =>
    obtain ⟨hends, rfl⟩ := inOrder_eq_ok_iff.mp horder
    refine .ok ?_
    rw [List.forall₂_map_right_iff, List.forall₂_same]
    intro e he
    exact ⟨rfl, (counterpart_of_rel (hs.get? e.1) ((mem_placedOrder hends).mp he)).2⟩

theorem idsInOrder_eq (hs : s.Reorders s') : s.idsInOrder = s'.idsInOrder :=
  (hs.looksLike {}).idsInOrder_eq

end Schema

/-! ### Subjects -/

/-- The same subject, its maps enumerated in another order. -/
inductive Subject.Reorders : Subject → Subject → Prop where
  | sequence {q p : Sequence} (h : q.Reorders p) : Reorders (.sequence q) (.sequence p)
  | table (key : String) {t u : Table} (h : t.Reorders u) : Reorders (.table key t) (.table key u)
  | index (key : String) {t u : Table} (h : t.Reorders u) (i : Index) :
    Reorders (.index key t i) (.index key u i)
  | foreignKey (key : String) {t u : Table} (h : t.Reorders u) (k : ForeignKey) :
    Reorders (.foreignKey key t k) (.foreignKey key u k)

/-- **A subject is written alike however its maps are enumerated.** -/
theorem Subject.Reorders.write_eq {x y : Subject} (h : x.Reorders y) (hs : s.Reorders s')
    (cfg : Config) : (x.write cfg s).outcome = (y.write cfg s').outcome := by
  cases h with
  | sequence h =>
    obtain ⟨users, _, rfl⟩ := h
    rfl
  | @table key t u h =>
    have hlook : t.LooksLike cfg (fun _ => True) u := h.looksLike _
    exact hlook.create_eq (fun _ _ => trivial) (fun _ _ => trivial)
      (hlook.interleavingText_eq (hs.looksLike cfg))
  | index key h i =>
    exact (h.looksLike fun _ => True).createIndex_eq (.refl i) (fun _ _ => trivial)
      fun _ _ => trivial
  | foreignKey key h k =>
    have htarget : Agree (k.SameTarget cfg) (s.table k.targetTable) (s'.table k.targetTable) :=
      Schema.agree_table (rel_imp (hs.get? k.targetTable) fun _ _ h => h.looksLike _)
    exact ((h.looksLike fun _ => True).addForeignKey_alike (.refl k)
      (fun _ _ => trivial) htarget (fun _ => rfl) fun _ => rfl).eq

/-! ### Sequences in order -/

theorem Sequence.Distinct.alike {sequences sequences' : Keyed Sequence}
    (hdistinct : Distinct sequences) (h : sequences.ReordersBy Sequence.Reorders sequences') :
    Alike Sequence.Reorders sequences sequences' := by
  obtain ⟨l, hl, hperm⟩ := h
  refine .inr ⟨hdistinct, l.map Prod.snd, ?_, hperm.map Prod.snd⟩
  rw [Keyed.values, List.forall₂_map_left_iff, List.forall₂_map_right_iff]
  exact hl.imp fun _ _ hxy => hxy.2

theorem Sequence.Reorders.writtenAlike (cfg : Config) : WrittenAlike cfg Reorders where
  place q p h := by
    obtain ⟨users, _, rfl⟩ := h
    rfl
  text q p h := by
    obtain ⟨users, _, rfl⟩ := h
    rfl

/-- Such sequences come in one order. -/
theorem Script.sequenceSubjects_reorders {sequences sequences' : Keyed Sequence}
    (h : sequences.ReordersBy Sequence.Reorders sequences')
    (hdistinct : Sequence.Distinct sequences) :
    List.Forall₂ Subject.Reorders (sequenceSubjects sequences) (sequenceSubjects sequences') := by
  rw [sequenceSubjects, sequenceSubjects, List.forall₂_map_left_iff, List.forall₂_map_right_iff]
  exact ((hdistinct.alike h).sorted (Sequence.Reorders.writtenAlike {})).imp
    fun _ _ hqp => .sequence hqp

/-! ### Scripts -/

namespace Script

variable {sequences sequences' : Keyed Sequence}

theorem tableSubjects_reorders {a b : String × Table} (h : Schema.SameEntry a b) :
    List.Forall₂ Subject.Reorders (tableSubjects a) (tableSubjects b) := by
  obtain ⟨key, t⟩ := a
  obtain ⟨_, u⟩ := b
  obtain ⟨rfl, htable⟩ := h
  have hindexes : t.indexes = u.indexes := by
    obtain ⟨columns, _, rfl⟩ := htable
    rfl
  rw [tableSubjects, tableSubjects, ← hindexes]
  refine .cons (.table key htable) ?_
  rw [List.forall₂_map_left_iff, List.forall₂_map_right_iff, List.forall₂_same]
  exact fun i _ => .index key htable i

theorem foreignKeySubjects_reorders {a b : String × Table} (h : Schema.SameEntry a b) :
    List.Forall₂ Subject.Reorders (foreignKeySubjects a) (foreignKeySubjects b) := by
  obtain ⟨key, t⟩ := a
  obtain ⟨_, u⟩ := b
  obtain ⟨rfl, htable⟩ := h
  have hkeys : t.foreignKeys = u.foreignKeys := by
    obtain ⟨columns, _, rfl⟩ := htable
    rfl
  rw [foreignKeySubjects, foreignKeySubjects, ← hkeys, List.forall₂_map_left_iff,
    List.forall₂_map_right_iff, List.forall₂_same]
  exact fun k _ => .foreignKey key htable k

/-- Foreign keys in the same place of reordered tables are the same. -/
theorem title_eq_of_reorders (hs : s.Reorders s') (e : String × Table) (he : e ∈ s.entries)
    (k l : ForeignKey) (hkl : (k, l) ∈ e.2.foreignKeys.zip (s'.counterpart e).2.foreignKeys) :
    k.title = l.title := by
  obtain ⟨columns, _, htable⟩ := (Schema.counterpart_of_rel (hs.get? e.1) he).2
  rw [htable] at hkl
  rw [List.forall₂_zip (List.forall₂_same.mpr fun _ _ => rfl) hkl]

theorem texts_reorders (hs : s.Reorders s')
    (hsequences : sequences.ReordersBy Sequence.Reorders sequences')
    (hdistinct : Sequence.Distinct sequences) (cfg : Config) :
    texts cfg s sequences = texts cfg s' sequences' :=
  texts_eq_of_looksLike (hs.looksLike cfg) (title_eq_of_reorders hs)
    (Sequence.Reorders.writtenAlike cfg) (hdistinct.alike hsequences)

/-- Sequences that are left alone need not be told apart. -/
theorem texts_eq_of_reorders (hs : s.Reorders s') (cfg : Config) (sequences : Keyed Sequence) :
    texts cfg s sequences = texts cfg s' sequences :=
  texts_eq_of_looksLike (hs.looksLike cfg) (title_eq_of_reorders hs)
    (Sequence.Reorders.writtenAlike cfg)
    (.inl (List.forall₂_same.mpr fun q _ => Sequence.Reorders.refl q))

end Script

/-- Tables with ids of their own make the same schema in whatever order they are added. -/
theorem Schema.ofTables_reorders {ts us : List Table} (h : ts.Perm us)
    (hdistinct : (ts.map Table.id).Nodup) : (ofTables ts).Reorders (ofTables us) := by
  have hdistinct' : (us.map Table.id).Nodup := (h.map Table.id).nodup_iff.mp hdistinct
  refine .of_perm ?_ Table.Reorders.refl
  show (ofTables ts).entries.Perm (ofTables us).entries
  rw [entries_ofTables hdistinct, entries_ofTables hdistinct']
  exact h.map _

/-- **Neither the order of tables nor the script depends on how maps are enumerated**, and so not on
the order in which tables were added. -/
theorem reordering_is_invisible (cfg : Config) {sequences sequences' : Keyed Sequence}
    (hsequences : sequences.ReordersBy Sequence.Reorders sequences')
    (hdistinct : Sequence.Distinct sequences) :
    (∀ s s' : Schema, s.Reorders s' → s.idsInOrder = s'.idsInOrder ∧
      Script.texts cfg s sequences = Script.texts cfg s' sequences') ∧
    ∀ ts us : List Table, ts.Perm us → (ts.map Table.id).Nodup →
      (Schema.ofTables ts).idsInOrder = (Schema.ofTables us).idsInOrder ∧
        Script.texts cfg (Schema.ofTables ts) sequences =
          Script.texts cfg (Schema.ofTables us) sequences' := by
  have hschemas (s s' : Schema) (hs : s.Reorders s') : s.idsInOrder = s'.idsInOrder ∧
      Script.texts cfg s sequences = Script.texts cfg s' sequences' :=
    ⟨Schema.idsInOrder_eq hs, Script.texts_reorders hs hsequences hdistinct cfg⟩
  exact ⟨hschemas, fun ts us h hids => hschemas _ _ (Schema.ofTables_reorders h hids)⟩

/-- Two sequences of one name, each with its users. -/
def Sequence.twins : List (String × Sequence) :=
  [("s1", (named "q1" "Numbers").usedBy "t1" "c1"), ("s2", (named "q2" "Numbers").usedBy "t2" "c1")]

theorem Sequence.distinct_twins : Distinct (Keyed.ofList twins) := by decide

theorem Sequence.reorders_twins :
    (Keyed.ofList twins).ReordersBy Reorders (Keyed.ofList twins.reverse) :=
  .of_perm (List.Perm.swap _ _ _) Reorders.refl

theorem reordering_is_invisible_twins :
    (Keyed.ofList Sequence.twins).ReordersBy Sequence.Reorders
        (Keyed.ofList Sequence.twins.reverse) ∧
      Sequence.Distinct (Keyed.ofList Sequence.twins) ∧
        [Table.named "t2" "A", Table.named "t1" "A"].Perm
          [Table.named "t1" "A", Table.named "t2" "A"] ∧
        Script.texts {} (Schema.ofTables [Table.named "t2" "A", Table.named "t1" "A"])
            (Keyed.ofList Sequence.twins) =
          Script.texts {} (Schema.ofTables [Table.named "t1" "A", Table.named "t2" "A"])
            (Keyed.ofList Sequence.twins.reverse) := by
  have hperm : [Table.named "t2" "A", Table.named "t1" "A"].Perm
      [Table.named "t1" "A", Table.named "t2" "A"] := List.Perm.swap _ _ _
  have hids : ([Table.named "t2" "A", Table.named "t1" "A"].map Table.id).Nodup := by decide
  have hinvisible := reordering_is_invisible {} Sequence.reorders_twins Sequence.distinct_twins
  exact ⟨Sequence.reorders_twins, Sequence.distinct_twins, hperm, (hinvisible.2 _ _ hperm hids).2⟩

end SchemaScript
