import SchemaScript.Proofs.Parts

/-! The texts of a script.

They are the texts of its subjects, one after another (`Script.texts_eq`), so what is said of each
subject carries over to scripts. Where only success matters, outcomes are compared without their
faults, as options. -/
namespace SchemaScript

variable {α β : Type}

/-! ### Results without faults -/

theorem toOption_eq_some_iff {x : Except Fault α} {a : α} : x.toOption = some a ↔ x = .ok a := by
  cases x <;> simp [Except.toOption]

theorem toOption_map (x : Except Fault α) (f : α → β) : (x.map f).toOption = x.toOption.map f := by
  cases x <;> rfl

theorem toOption_bind (x : Except Fault α) (f : α → Except Fault β) :
    (x.bind f).toOption = x.toOption.bind fun a => (f a).toOption := by
  cases x <;> rfl

theorem toOption_mapM (f : α → Except Fault β) (l : List α) :
    (l.mapM f).toOption = l.mapM fun a => (f a).toOption := by
  induction l with
  | nil => rfl
  | cons a l ih =>
    rw [mapM_cons_eq, toOption_bind, List.mapM_cons]
    simp only [toOption_map, ih]
    cases (f a).toOption with
    | none => rfl
    | some b => cases l.mapM fun a => (f a).toOption <;> rfl

/-- Lookups made for renamed items find the same if each of them does. -/
theorem toOption_mapM_map {γ : Type} {f : α → Except Fault γ} {g : β → Except Fault γ}
    {rename : β → α} (h : ∀ b, (f (rename b)).toOption = (g b).toOption) (l : List β) :
    ((l.map rename).mapM f).toOption = (l.mapM g).toOption := by
  rw [List.mapM_map, toOption_mapM, toOption_mapM]
  exact congrArg (l.mapM ·) (funext h)

/-! ### Texts of scripts -/

namespace Script

variable {s : Schema} {sequences : Keyed Sequence}

theorem map_text_mapM_render (cfg : Config) (s : Schema) (l : List Subject) :
    (l.mapM fun x : Subject => (x.render cfg s).outcome).map (List.map Statement.text) =
      l.mapM fun x : Subject => (x.write cfg s).outcome := by
  induction l with
  | nil => rfl
  | cons x l ih =>
    rw [mapM_cons_eq, mapM_cons_eq, ← ih, outcome_render]
    cases (x.write cfg s).outcome with
    | error f => rfl
    | ok text => cases l.mapM fun x : Subject => (x.render cfg s).outcome <;> rfl

/-- The texts of a script are those of its subjects, once the tables are in order. -/
theorem texts_eq (cfg : Config) (s : Schema) (sequences : Keyed Sequence) :
    texts cfg s sequences = s.inOrder.bind fun order =>
      (sequenceSubjects sequences ++ orderedSubjects cfg order).mapM fun x : Subject =>
        (x.write cfg s).outcome := by
  have hfirst := mapM_render_sequenceSubjects cfg s sequences
  rw [texts, outcome_generate, hfirst]
  show (s.inOrder.bind _).map _ = _
  cases s.inOrder with
  | error f => rfl
  | ok order =>
    show Except.map _ (Except.map _ _) = List.mapM _ _
    rw [← map_text_mapM_render, mapM_append_eq, hfirst]
    rfl

end Script

end SchemaScript
