import SchemaScript.Proofs.Blame
import SchemaScript.Proofs.Embedding
import SchemaScript.Proofs.Likeness
import SchemaScript.Proofs.Texts

/-! Schemas that look alike.

Under each key they have tables that look alike, each the counterpart of the other
(`Schema.LooksLike`). Counterparts have counterparts as parents, so they come in the same order
(`LooksLike.inOrder_eq`); they are written alike, and so are their indexes and foreign keys. The
scripts are the same, then, up to what faults about foreign keys may differ in
(`Script.texts_sameUpTo`). -/
namespace SchemaScript

/-- Whether a table, its keys or its indexes mention a column, or a foreign key uses it. -/
def Schema.Refers (s : Schema) (e : String × Table) (id : String) : Prop :=
  e.2.Mentions id ∨ s.Links e id

/-- Two schemas with the same keys, and tables that are written alike under each of them. -/
def Schema.LooksLike (cfg : Config) (s s' : Schema) : Prop :=
  ∀ key, Option.Rel (fun t u => t.LooksLike cfg (s.Refers (key, t)) u) (s.get? key) (s'.get? key)

variable {cfg : Config} {s s' : Schema}

/-! ### Tables under their keys -/

/-- The entry under the same key in another schema. -/
def Schema.counterpart (s' : Schema) (e : String × Table) : String × Table :=
  (e.1, (s'.get? e.1).getD e.2)

/-- What is so of the tables under each key is so of an entry and its counterpart. -/
theorem Schema.counterpart_of_rel {r : Table → Table → Prop} {e : String × Table}
    (h : Option.Rel r (s.get? e.1) (s'.get? e.1)) (he : e ∈ s.entries) :
    s'.counterpart e ∈ s'.entries ∧ r e.2 (s'.counterpart e).2 := by
  obtain ⟨u, hu, htu⟩ := exists_of_rel h (s.get?_eq_some_iff.mpr he)
  have hsame : s'.counterpart e = (e.1, u) := by rw [counterpart, hu, Option.getD_some]
  rw [hsame]
  exact ⟨s'.get?_eq_some_iff.mp hu, htu⟩

namespace Schema.LooksLike

variable {e : String × Table} {t u : Table}

theorem counterpart_spec (h : s.LooksLike cfg s') (he : e ∈ s.entries) :
    s'.counterpart e ∈ s'.entries ∧ e.2.LooksLike cfg (s.Refers e) (s'.counterpart e).2 := by
  have hspec := counterpart_of_rel (h e.1) he
  exact hspec

theorem perm_counterparts (h : s.LooksLike cfg s') :
    (s.entries.map s'.counterpart).Perm s'.entries := by
  have hkeys : ((s.entries.map s'.counterpart).map Prod.fst).Nodup := by
    rw [List.map_map]
    exact s.tables.distinct
  refine (List.perm_ext_iff_of_nodup (.of_map _ hkeys) (.of_map _ s'.tables.distinct)).mpr
    fun e' => ?_
  rw [List.mem_map]
  constructor
  · intro he
    obtain ⟨e, he, rfl⟩ := he
    exact (h.counterpart_spec he).1
  · intro he'
    have hget := s'.get?_eq_some_iff.mpr he'
    cases ht : s.get? e'.1 with
    | none => rw [eq_none_of_rel (h e'.1) ht] at hget; cases hget
    | some t =>
      refine ⟨(e'.1, t), s.get?_eq_some_iff.mp ht, ?_⟩
      rw [counterpart, hget, Option.getD_some]

theorem parentOf?_eq (h : s.LooksLike cfg s') (ht : t.parentId? = u.parentId?) :
    s'.parentOf? u = (s.parentOf? t).map s'.counterpart := by
  unfold parentOf?
  rw [← ht]
  cases t.parentId? with
  | none => rfl
  | some id =>
    show (s'.get? id).map (id, ·) = ((s.get? id).map (id, ·)).map s'.counterpart
    cases hup : s.get? id with
    | none => rw [eq_none_of_rel (h id) hup]; rfl
    | some up =>
      obtain ⟨up', hup', _⟩ := exists_of_rel (h id) hup
      simp only [hup', Option.map_some, counterpart, Option.getD_some]

theorem embeds (h : s.LooksLike cfg s') : Embeds s'.counterpart s s' where
  mem _ he := (h.counterpart_spec he).1
  parent _ he := h.parentOf?_eq (h.counterpart_spec he).2.parentId
  names a ha b hb := by
    rw [before, before, ← (h.counterpart_spec ha).2.name, ← (h.counterpart_spec hb).2.name]
    rfl

/-- **Tables that look alike come in the same order.** -/
theorem inOrder_eq (h : s.LooksLike cfg s') :
    s'.inOrder = s.inOrder.map (List.map s'.counterpart) :=
  h.embeds.inOrder_image h.perm_counterparts fun _ he => (h.counterpart_spec he).2.name.symm

theorem idsInOrder_eq (h : s.LooksLike cfg s') : s.idsInOrder = s'.idsInOrder := by
  rw [idsInOrder, idsInOrder, h.inOrder_eq]
  cases s.inOrder with
  | error f => rfl
  | ok order =>
    show Except.ok _ = Except.ok _
    rw [List.map_map]
    rfl

end Schema.LooksLike

/-! ### Subjects -/

theorem Table.LooksLike.interleavingText_eq {t u : Table} {seen : String → Prop}
    (h : t.LooksLike cfg seen u) (hs : s.LooksLike cfg s') :
    t.interleavingText cfg s = u.interleavingText cfg s' := by
  have hlink' := hs.parentOf?_eq h.parentId
  cases hlink : s.parentOf? t with
  | none =>
    rw [hlink, Option.map_none] at hlink'
    rw [interleavingText_of_root hlink, interleavingText_of_root hlink']
  | some up =>
    rw [hlink, Option.map_some] at hlink'
    obtain ⟨hid, hup⟩ := Schema.parentOf?_eq_some_iff.mp hlink
    obtain ⟨p, hp, htext⟩ := interleavingText_of_link cfg hlink
    obtain ⟨p', hp', htext'⟩ := interleavingText_of_link cfg hlink'
    have hclause := h.clause up.1 hid
    rw [hp, hp', Option.map_some, Option.map_some, Option.some.injEq] at hclause
    rw [htext, htext', hclause, (hs.counterpart_spec hup).2.name]
    rfl

/-- Each fault is related to itself, and so are the faults of foreign keys in the same place if they
have more columns, or fewer, than the tables they refer to. -/
structure Schema.Relates (g : Fault → Fault → Prop) (s s' : Schema) : Prop where
  refl : ∀ f, g f f
  uneven : ∀ e ∈ s.entries, ∀ k l, (k, l) ∈ e.2.foreignKeys.zip (s'.counterpart e).2.foreignKeys →
    k.columns.length ≠ k.targetColumns.length →
      g (.unevenForeignKey e.2.name k.title k.columns.length k.targetColumns.length)
        (.unevenForeignKey e.2.name l.title k.columns.length k.targetColumns.length)

/-- The statements of two subjects, each in its schema. -/
def Subject.WrittenAlike (g : Fault → Fault → Prop) (cfg : Config) (s s' : Schema) (x y : Subject) :
    Prop := SameUpTo g (x.write cfg s).outcome (y.write cfg s').outcome

namespace Schema.LooksLike

variable {g : Fault → Fault → Prop} {e : String × Table}

theorem addForeignKey_alike (h : s.LooksLike cfg s') (hg : s.Relates g s') (he : e ∈ s.entries)
    {k l : ForeignKey} (hkl : (k, l) ∈ e.2.foreignKeys.zip (s'.counterpart e).2.foreignKeys) :
    SameUpTo g (k.add cfg s e.2).outcome (l.add cfg s' (s'.counterpart e).2).outcome := by
  have htable := (h.counterpart_spec he).2
  have hk := (List.of_mem_zip hkl).1
  have htarget := agree_table (rel_imp (h k.targetTable) fun _ _ htarget => htarget.mono
    fun id hid => .inr (.referred e he k hk rfl hid))
  exact htable.addForeignKey_alike (List.forall₂_zip htable.foreignKeys hkl)
    (fun id hid => .inr (.declared k hk hid)) htarget hg.refl (hg.uneven e he k l hkl)

theorem foreignKeySubjects_alike (h : s.LooksLike cfg s') (hg : s.Relates g s') (he : e ∈ s.entries) :
    List.Forall₂ (Subject.WrittenAlike g cfg s s') (Script.foreignKeySubjects e)
      (Script.foreignKeySubjects (s'.counterpart e)) := by
  rw [Script.foreignKeySubjects, Script.foreignKeySubjects, List.forall₂_map_left_iff,
    List.forall₂_map_right_iff, List.forall₂_iff_zip]
  exact ⟨(h.counterpart_spec he).2.foreignKeys.length_eq, fun hkl => h.addForeignKey_alike hg he hkl⟩

theorem tableSubjects_alike (h : s.LooksLike cfg s') (hg : s.Relates g s') (he : e ∈ s.entries) :
    List.Forall₂ (Subject.WrittenAlike g cfg s s') (Script.tableSubjects e)
      (Script.tableSubjects (s'.counterpart e)) := by
  have htable := (h.counterpart_spec he).2
  refine .cons (.of_eq hg.refl ?_) ?_
  · exact htable.create_eq (fun id hid => .inl (.body hid))
      (fun part hpart => .inl (.key part hpart rfl)) (htable.interleavingText_eq h)
  · rw [List.forall₂_map_left_iff, List.forall₂_map_right_iff, List.forall₂_iff_zip]
    refine ⟨htable.indexes.length_eq, fun {i j} hij => .of_eq hg.refl ?_⟩
    have hi := (List.of_mem_zip hij).1
    refine htable.createIndex_eq (List.forall₂_zip htable.indexes hij)
      (fun part hpart => .inl (.indexKey i hi part hpart rfl)) fun id hid => ?_
    obtain ⟨hstored, hkey⟩ := Index.mem_extraColumns.mp hid
    exact .inl (.stored i hi hstored hkey)

theorem orderedSubjects_alike (h : s.LooksLike cfg s') (hg : s.Relates g s')
    {order : List (String × Table)} (horder : ∀ e ∈ order, e ∈ s.entries) :
    List.Forall₂ (Subject.WrittenAlike g cfg s s') (Script.orderedSubjects cfg order)
      (Script.orderedSubjects cfg (order.map s'.counterpart)) := by
  have hentries : List.Forall₂ (fun a b => a ∈ s.entries ∧ s'.counterpart a = b) order
      (order.map s'.counterpart) := by
    rw [List.forall₂_map_right_iff, List.forall₂_same]
    exact fun e he => ⟨horder e he, rfl⟩
  unfold Script.orderedSubjects
  refine List.rel_append ?_ ?_
  · split
    · refine List.rel_flatMap hentries fun a b hab => ?_
      obtain ⟨ha, rfl⟩ := hab
      exact h.tableSubjects_alike hg ha
    · exact .nil
  · split
    · refine List.rel_flatMap hentries fun a b hab => ?_
      obtain ⟨ha, rfl⟩ := hab
      exact h.foreignKeySubjects_alike hg ha
    · exact .nil

end Schema.LooksLike

/-! ### Scripts -/

namespace Script

variable {g : Fault → Fault → Prop} {r : Sequence → Sequence → Prop}
  {sequences sequences' : Keyed Sequence}

/-- **Schemas that look alike have the same script**, up to what faults may differ in. -/
theorem texts_sameUpTo (hs : s.LooksLike cfg s') (hg : s.Relates g s')
    (hr : Sequence.WrittenAlike cfg r) (hsequences : Sequence.Alike r sequences sequences') :
    SameUpTo g (texts cfg s sequences) (texts cfg s' sequences') := by
  rw [texts_eq, texts_eq, hs.inOrder_eq]
  cases horder : s.inOrder with
  | error f => exact .error (hg.refl f)
  | ok order =>
    have hfirst : List.Forall₂ (Subject.WrittenAlike g cfg s s') (sequenceSubjects sequences)
        (sequenceSubjects sequences') := by
      rw [sequenceSubjects, sequenceSubjects, List.forall₂_map_left_iff, List.forall₂_map_right_iff]
      exact (hsequences.sorted hr).imp fun q p hqp =>
        .of_eq hg.refl (congrArg Except.ok (hr.text q p hqp))
    have hentries : ∀ e ∈ order, e ∈ s.entries := by
      obtain ⟨hends, rfl⟩ := Schema.inOrder_eq_ok_iff.mp horder
      exact fun e he => (Schema.mem_placedOrder hends).mp he
    exact .mapM (List.rel_append hfirst (hs.orderedSubjects_alike hg hentries))

/-- If faults call foreign keys alike, too, the scripts are the same altogether. -/
theorem texts_eq_of_looksLike (hs : s.LooksLike cfg s')
    (htitle : ∀ e ∈ s.entries, ∀ k l,
      (k, l) ∈ e.2.foreignKeys.zip (s'.counterpart e).2.foreignKeys → k.title = l.title)
    (hr : Sequence.WrittenAlike cfg r) (hsequences : Sequence.Alike r sequences sequences') :
    texts cfg s sequences = texts cfg s' sequences' := by
  have hg : s.Relates (· = ·) s' :=
    ⟨fun _ => rfl, fun e he k l hkl _ => by rw [htitle e he k l hkl]⟩
  exact (texts_sameUpTo hs hg hr hsequences).eq

end Script

end SchemaScript
