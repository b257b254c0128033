import SchemaScript.Proofs.Counterparts

/-! Empty texts count as absent.

Wherever a text may be missing, an empty one is treated as if it were: comments, names of foreign keys
and checks, actions, the bounds and the counter of a sequence, the id of a parent, and the type a
column had in Cassandra. Clearing any of them leaves the order of tables, the script and its fault as
they are (`empty_texts_are_absent`), even in a schema with a table under the empty key. -/
namespace SchemaScript

/-! ### Clearing empty texts -/

/-- The same text, or nothing in place of an empty one. -/
def Text.Cleared (x y : Option String) : Prop := y = x ∨ x = some "" ∧ y = none

def Column.Cleared (c d : Column) : Prop :=
  ∃ comment options, Text.Cleared c.comment comment ∧
    (∀ name, name ≠ cassandraTypeOption → options.get? name = c.options.get? name) ∧
    Text.Cleared (c.options.get? cassandraTypeOption) (options.get? cassandraTypeOption) ∧
    d = { c with comment, options }

def ForeignKey.Cleared (k l : ForeignKey) : Prop :=
  ∃ name onDelete, Text.Cleared k.name name ∧ Text.Cleared k.onDelete onDelete ∧
    l = { k with name, onDelete }

def Check.Cleared (k l : Check) : Prop := ∃ name, Text.Cleared k.name name ∧ l = { k with name }

/-- A parent with an empty id may be dropped altogether. -/
inductive Parent.Cleared : Option Parent → Option Parent → Prop where
  | none : Cleared none none
  | kept (p : Parent) {onDelete : Option String} (h : Text.Cleared p.onDelete onDelete) :
    Cleared (some p) (some { p with onDelete })
  | dropped {p : Parent} (h : p.id = "") : Cleared (some p) none

def Table.Cleared (t u : Table) : Prop :=
  ∃ columns foreignKeys checks parent comment,
    (∀ id, Option.Rel Column.Cleared (t.columns.get? id) (columns.get? id)) ∧
    List.Forall₂ ForeignKey.Cleared t.foreignKeys foreignKeys ∧
    List.Forall₂ Check.Cleared t.checks checks ∧ Parent.Cleared t.parent parent ∧
    Text.Cleared t.comment comment ∧
    u = { t with columns, foreignKeys, checks, parent, comment }

def Schema.Cleared (s s' : Schema) : Prop :=
  ∀ key, Option.Rel Table.Cleared (s.get? key) (s'.get? key)

def Sequence.Cleared (q p : Sequence) : Prop :=
  ∃ skipMin skipMax startCounter, Text.Cleared q.skipMin skipMin ∧ Text.Cleared q.skipMax skipMax ∧
    Text.Cleared q.startCounter startCounter ∧ p = { q with skipMin, skipMax, startCounter }

theorem Text.Cleared.given?_eq {x y : Option String} (h : Cleared x y) : given? y = given? x := by
  rcases h with rfl | ⟨rfl, rfl⟩ <;> rfl

/-! ### Nothing looks different -/

variable {cfg : Config}

theorem Column.Cleared.looksLike {c d : Column} (h : c.Cleared d) : c.LooksLike cfg d := by
  obtain ⟨comment, options, hcomment, _, htype, rfl⟩ := h
  refine ⟨rfl, ?_, fun _ => hcomment.given?_eq.symm⟩
  have hoptions : c.optionsText = ({ c with comment, options } : Column).optionsText := by
    unfold optionsText cassandraType?
    rw [htype.given?_eq]
  rw [text, hoptions]
  rfl

theorem ForeignKey.Cleared.looksLike {k l : ForeignKey} (h : k.Cleared l) : k.LooksLike l := by
  obtain ⟨name, onDelete, hname, honDelete, rfl⟩ := h
  exact ⟨rfl, rfl, rfl, hname.given?_eq.symm, honDelete.given?_eq.symm⟩

theorem ForeignKey.Cleared.title_eq {k l : ForeignKey} (h : k.Cleared l) : k.title = l.title := by
  obtain ⟨name, onDelete, hname, _, rfl⟩ := h
  rw [title, title, hname.given?_eq]

theorem Check.Cleared.text_eq {k l : Check} (h : k.Cleared l) : k.text = l.text := by
  obtain ⟨name, hname, rfl⟩ := h
  unfold text
  rw [hname.given?_eq]

theorem Parent.Cleared.given?_id_eq {x y : Option Parent} (h : Cleared x y) :
    Text.given? (x.map Parent.id) = Text.given? (y.map Parent.id) := by
  cases h with
  | none => rfl
  | kept p h => rfl
  | dropped h => rw [Option.map_some, h]; rfl

/-- The clause of a parent that has an id. -/
theorem Parent.Cleared.clause_eq {x y : Option Parent} (h : Cleared x y) {id : String}
    (hid : Text.given? (x.map Parent.id) = some id) :
    x.map (Parent.clause cfg) = y.map (Parent.clause cfg) := by
  cases h with
  | none => rfl
  | @kept p onDelete h =>
    have haction : ({ p with onDelete } : Parent).actionText = p.actionText := by
      unfold actionText
      rw [h.given?_eq]
    simp only [Option.map_some, Option.some.injEq]
    funext ident
    rw [clause, clause, haction]
  | dropped h =>
    rw [Option.map_some, h] at hid
    cases hid

theorem Table.Cleared.looksLike {t u : Table} (h : t.Cleared u) (seen : String → Prop) :
    t.LooksLike cfg seen u := by
  obtain ⟨columns, foreignKeys, checks, parent, comment, hcolumns, hforeignKeys, hchecks, hparent,
    hcomment, rfl⟩ := h
  exact {
    name := rfl
    banner := by
      unfold banner remark?
      rw [hcomment.given?_eq]
    columnIds := rfl
    columns := fun id _ => rel_imp (hcolumns id) fun _ _ hcd => hcd.looksLike
    primaryKey := rfl
    checks := map_eq_of_forall₂ hchecks fun _ _ hkl => hkl.text_eq
    indexes := List.forall₂_same.mpr fun i _ => .refl i
    foreignKeys := hforeignKeys.imp fun _ _ hkl => hkl.looksLike
    parentId := hparent.given?_id_eq
    clause := fun _ hid => hparent.clause_eq hid }

variable {s s' : Schema}

theorem Schema.Cleared.looksLike (h : s.Cleared s') (cfg : Config) : s.LooksLike cfg s' := fun key =>
  rel_imp (h key) fun _ _ htu => htu.looksLike _

theorem Schema.Cleared.title_eq (h : s.Cleared s') {e : String × Table} (he : e ∈ s.entries)
    {k l : ForeignKey} (hkl : (k, l) ∈ e.2.foreignKeys.zip (s'.counterpart e).2.foreignKeys) :
    k.title = l.title := by
  obtain ⟨_, _, _, _, _, _, hkeys, _, _, _, htable⟩ := (counterpart_of_rel (h e.1) he).2
  rw [htable] at hkl
  exact (List.forall₂_zip hkeys hkl).title_eq

theorem Sequence.Cleared.settings_eq {q p : Sequence} (h : q.Cleared p) (d : Dialect) :
    q.settings d = p.settings d := by
  obtain ⟨skipMin, skipMax, startCounter, hmin, hmax, hstart, rfl⟩ := h
  cases d with
  | googleSql =>
    have hoptions : q.googleSqlOptions =
        ({ q with skipMin, skipMax, startCounter } : Sequence).googleSqlOptions := by
      unfold googleSqlOptions setting
      rw [hmin.given?_eq, hmax.given?_eq, hstart.given?_eq]
      rfl
    unfold settings googleSqlSettings
    rw [hoptions]
  | postgreSql =>
    unfold settings postgreSqlSettings skipClause startClause
    rw [hmin.given?_eq, hmax.given?_eq, hstart.given?_eq]
    rfl

theorem Sequence.Cleared.writtenAlike (cfg : Config) : WrittenAlike cfg Cleared where
  place q p h := by
    obtain ⟨_, _, _, _, _, _, rfl⟩ := h
    rfl
  text q p h := by
    have hsettings := h.settings_eq cfg.dialect
    obtain ⟨_, _, _, _, _, _, rfl⟩ := h
    unfold createText
    rw [hsettings]

/-! ### Scripts -/

/-- **An empty text counts as absent.** Where some of them are cleared, the tables come in the same
order and the script is the same, or the fault is. -/
theorem empty_texts_are_absent (cfg : Config) {s s' : Schema} {sequences sequences' : Keyed Sequence}
    (hs : s.Cleared s') (hsequences : Sequence.Alike Sequence.Cleared sequences sequences') :
    s.idsInOrder = s'.idsInOrder ∧
      Script.texts cfg s sequences = Script.texts cfg s' sequences' := by
  have hlook := hs.looksLike cfg
  refine ⟨hlook.idsInOrder_eq, ?_⟩
  exact Script.texts_eq_of_looksLike hlook (fun e he k l hkl => hs.title_eq he hkl)
    (Sequence.Cleared.writtenAlike cfg) hsequences

/-- A table under the empty key, and another whose parent has an empty id. -/
def Schema.padded : Schema :=
  { tables := Keyed.ofList
      [("", Table.named "" "Root"),
       ("t1", ((Table.named "t1" "Leaf").interleavedIn { id := "" }).withComment "")] }

def Schema.trimmed : Schema :=
  { tables := Keyed.ofList [("", Table.named "" "Root"), ("t1", Table.named "t1" "Leaf")] }

theorem Schema.cleared_trimmed : padded.Cleared trimmed := by
  have hroot : (Table.named "" "Root").Cleared (Table.named "" "Root") :=
    ⟨∅, [], [], none, none, fun _ => .none, .nil, .nil, .none, .inl rfl, rfl⟩
  have hleaf : (((Table.named "t1" "Leaf").interleavedIn { id := "" }).withComment "").Cleared
      (Table.named "t1" "Leaf") :=
    ⟨∅, [], [], none, none, fun _ => .none, .nil, .nil, .dropped rfl, .inr ⟨rfl, rfl⟩, rfl⟩
  intro key
  exact Keyed.ReordersBy.get?
    ⟨trimmed.entries, .cons ⟨rfl, hroot⟩ (.cons ⟨rfl, hleaf⟩ .nil), .refl _⟩ key

theorem Sequence.alike_unbounded :
    Alike Cleared (Keyed.ofList [("s1", (named "q1" "Numbers").withSkipRange "" "")])
      (Keyed.ofList [("s1", named "q1" "Numbers")]) :=
  .inl (.cons ⟨none, none, none, .inr ⟨rfl, rfl⟩, .inr ⟨rfl, rfl⟩, .inl rfl, rfl⟩ .nil)

theorem empty_texts_are_absent_padded :
    Schema.padded.Cleared Schema.trimmed ∧
      Sequence.Alike Sequence.Cleared
          (Keyed.ofList [("s1", (Sequence.named "q1" "Numbers").withSkipRange "" "")])
          (Keyed.ofList [("s1", Sequence.named "q1" "Numbers")]) ∧
        Schema.padded.idsInOrder = Schema.trimmed.idsInOrder ∧
          Script.texts {} Schema.padded
              (Keyed.ofList [("s1", (Sequence.named "q1" "Numbers").withSkipRange "" "")]) =
            Script.texts {} Schema.trimmed (Keyed.ofList [("s1", Sequence.named "q1" "Numbers")]) :=
  ⟨Schema.cleared_trimmed, Sequence.alike_unbounded,
    empty_texts_are_absent {} Schema.cleared_trimmed Sequence.alike_unbounded⟩

end SchemaScript
