import SchemaScript.Proofs.DefinitionBeforeUse
import SchemaScript.Proofs.Determinism
import SchemaScript.Proofs.Faults

/-! What a configuration can change about a script.

Dialect, quoting, comments and source decide how statements are spelled. Which statements there are,
in which order, and what a script fails with is the same for all configurations that write the same
parts (`spelling_is_all_that_differs`), since the fault of a subject is a matter of the schema
(`Subject.fault?`). -/
namespace SchemaScript

variable {α β : Type}

/-! ### Outcomes with one fault -/

theorem agree_of_faultOf?_eq {x : Except Fault α} {y : Except Fault β}
    (h : faultOf? x = faultOf? y) : Agree (fun _ _ => True) x y := by
  cases x with
  | ok a =>
    obtain ⟨b, rfl⟩ := faultOf?_eq_none_iff.mp h.symm
    exact .ok trivial
  | error f =>
    rw [faultOf?_eq_some_iff.mp h.symm]
    exact .error f

/-- What each of two results is known to be can be said of them together. -/
theorem Agree.and {r : α → β → Prop} {x : Except Fault α} {y : Except Fault β} {p : α → Prop}
    {q : β → Prop} (h : Agree r x y) (hx : ∀ a, x = .ok a → p a) (hy : ∀ b, y = .ok b → q b) :
    Agree (fun a b => r a b ∧ p a ∧ q b) x y := by
  cases h with
  | ok h => exact .ok ⟨h, hx _ rfl, hy _ rfl⟩
  | error f => exact .error f

/-! ### Scripts with the same subjects -/

/-- Two scripts, each written under its own configuration, whose statements define the same one by
one. -/
structure SameSubjects (same : Subject → Subject → Prop) (cfg cfg' : Config) (s s' : Schema)
    (script script' : List Statement) : Prop where
  subjects : List.Forall₂ (fun a b => same a.subject b.subject) script script'
  left : ∀ st ∈ script, (st.subject.write cfg s).outcome = .ok st.text
  right : ∀ st ∈ script', (st.subject.write cfg' s').outcome = .ok st.text

namespace Script

variable {cfg cfg' : Config} {s s' : Schema} {sequences sequences' : Keyed Sequence}

theorem sameSubjects_of_agree {same : Subject → Subject → Prop}
    (h : Agree (List.Forall₂ fun a b => same a.subject b.subject ∧ True)
      (generate cfg s sequences).outcome (generate cfg' s' sequences').outcome) :
    Agree (SameSubjects same cfg cfg' s s') (generate cfg s sequences).outcome
      (generate cfg' s' sequences').outcome := by
  refine (h.and (fun _ hok => (generate_eq_ok_iff.mp hok).text_eq)
    fun _ hok => (generate_eq_ok_iff.mp hok).text_eq).mono fun script script' hscript => ?_
  exact ⟨hscript.1.imp fun _ _ hst => hst.1, hscript.2.1, hscript.2.2⟩

/-- Under two configurations the same subjects are written, or the same fault is reported. -/
theorem agree_generate_of_parts (htables : cfg.tables = cfg'.tables)
    (hkeys : cfg.foreignKeys = cfg'.foreignKeys) (s : Schema) (sequences : Keyed Sequence) :
    Agree (SameSubjects (· = ·) cfg cfg' s s) (generate cfg s sequences).outcome
      (generate cfg' s sequences).outcome := by
  have hwrite (x y : Subject) (h : x = y) :
      Agree (fun _ _ => True) (x.write cfg s).outcome (y.write cfg' s).outcome := by
    subst h
    refine agree_of_faultOf?_eq ?_
    rw [Subject.faultOf?_write, Subject.faultOf?_write]
  have hentry (a b : String × Table) (h : a = b) :
      List.Forall₂ (· = ·) (tableSubjects a) (tableSubjects b) ∧
        List.Forall₂ (· = ·) (foreignKeySubjects a) (foreignKeySubjects b) := by
    subst h
    exact ⟨List.forall₂_same.mpr fun _ _ => rfl, List.forall₂_same.mpr fun _ _ => rfl⟩
  have horder : Agree (List.Forall₂ (· = ·)) s.inOrder s.inOrder :=
    (Agree.of_eq rfl).mono fun _ _ h => List.forall₂_eq_eq_eq ▸ h
  exact sameSubjects_of_agree
    (agree_generate htables hkeys (List.forall₂_same.mpr fun _ _ => rfl) horder hentry hwrite)

/-- The maps may be enumerated in another order as well. -/
theorem agree_generate_of_reorders (htables : cfg.tables = cfg'.tables)
    (hkeys : cfg.foreignKeys = cfg'.foreignKeys) (hs : s.Reorders s')
    (hsequences : sequences.ReordersBy Sequence.Reorders sequences')
    (hdistinct : Sequence.Distinct sequences) :
    Agree (SameSubjects Subject.Reorders cfg cfg' s s') (generate cfg s sequences).outcome
      (generate cfg' s' sequences').outcome := by
  have hwrite (x y : Subject) (h : x.Reorders y) :
      Agree (fun _ _ => True) (x.write cfg s).outcome (y.write cfg' s').outcome := by
    refine agree_of_faultOf?_eq ?_
    rw [Subject.faultOf?_write, ← Subject.faultOf?_write cfg', h.write_eq hs]
  exact sameSubjects_of_agree
    (agree_generate htables hkeys (sequenceSubjects_reorders hsequences hdistinct)
      (Schema.inOrder_reorders hs)
      (fun _ _ h => ⟨tableSubjects_reorders h, foreignKeySubjects_reorders h⟩) hwrite)

end Script

/-- **Configurations that write the same parts differ in spelling only.** Their scripts fail with the
same fault, or both define the same, statement by statement; and so they do if the maps are enumerated
in another order for one of them, provided that no two sequences share name and id. -/
theorem spelling_is_all_that_differs {cfg cfg' : Config} (htables : cfg.tables = cfg'.tables)
    (hkeys : cfg.foreignKeys = cfg'.foreignKeys) (s : Schema) (sequences : Keyed Sequence) :
    Agree (SameSubjects (· = ·) cfg cfg' s s) (Script.generate cfg s sequences).outcome
        (Script.generate cfg' s sequences).outcome ∧
      (Sequence.Distinct sequences → ∀ s' sequences', s.Reorders s' →
        sequences.ReordersBy Sequence.Reorders sequences' →
          Agree (SameSubjects Subject.Reorders cfg cfg' s s')
            (Script.generate cfg s sequences).outcome
            (Script.generate cfg' s' sequences').outcome) :=
  ⟨Script.agree_generate_of_parts htables hkeys s sequences,
    fun hdistinct _ _ hs hsequences =>
      Script.agree_generate_of_reorders htables hkeys hs hsequences hdistinct⟩

/-- A configuration that spells everything in another way. -/
def Config.otherwise : Config :=
  { comments := true, protectNames := false, dialect := .postgreSql, source := some .oracle }

theorem spelling_is_all_that_differs_albums :
    ({} : Config).tables = Config.otherwise.tables ∧
      ({} : Config).foreignKeys = Config.otherwise.foreignKeys ∧
        Sequence.Distinct (Keyed.ofList Sequence.twins) ∧
          Agree (SameSubjects Subject.Reorders {} Config.otherwise Schema.albums Schema.albums)
            (Script.generate {} Schema.albums (Keyed.ofList Sequence.twins)).outcome
            (Script.generate Config.otherwise Schema.albums
              (Keyed.ofList Sequence.twins.reverse)).outcome := by
  have htables : ({} : Config).tables = Config.otherwise.tables := rfl
  have hkeys : ({} : Config).foreignKeys = Config.otherwise.foreignKeys := rfl
  have hspelling := spelling_is_all_that_differs htables hkeys Schema.albums
    (Keyed.ofList Sequence.twins)
  exact ⟨htables, hkeys, Sequence.distinct_twins,
    hspelling.2 Sequence.distinct_twins _ _ (.refl _) Sequence.reorders_twins⟩

end SchemaScript
