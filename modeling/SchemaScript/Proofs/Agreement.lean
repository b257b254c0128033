import SchemaScript.Proofs.Subjects

/-! Two scripts side by side.

Two outcomes agree under a relation if they are one fault, or two results that are related (`Agree`).
Agreement is kept by every step of a run, so two scripts agree if their tables come in related orders
and related subjects are written in agreement (`agree_generate`). -/
namespace SchemaScript

variable {α β γ δ : Type} {r : α → β → Prop} {t : γ → δ → Prop}

/-- One fault for both, or two related results. -/
inductive Agree (r : α → β → Prop) : Except Fault α → Except Fault β → Prop where
  | ok {a : α} {b : β} (h : r a b) : Agree r (.ok a) (.ok b)
  | error (f : Fault) : Agree r (.error f) (.error f)

namespace Agree

theorem mono {r' : α → β → Prop} {x : Except Fault α} {y : Except Fault β} (h : Agree r x y)
    (himp : ∀ a b, r a b → r' a b) : Agree r' x y := by
  cases h with
  | ok h => exact .ok (himp _ _ h)
  | error f => exact .error f

theorem bind {x : Except Fault α} {y : Except Fault β} {f : α → Except Fault γ}
    {g : β → Except Fault δ} (h : Agree r x y) (hnext : ∀ a b, r a b → Agree t (f a) (g b)) :
    Agree t (x.bind f) (y.bind g) := by
  cases h with
  | ok h => exact hnext _ _ h
  | error f => exact .error f

theorem map {x : Except Fault α} {y : Except Fault β} {f : α → γ} {g : β → δ} (h : Agree r x y)
    (hnext : ∀ a b, r a b → t (f a) (g b)) : Agree t (x.map f) (y.map g) := by
  cases h with
  | ok h => exact .ok (hnext _ _ h)
  | error f => exact .error f

/-- Traversals of related lists agree if each step does. -/
theorem mapM {l : List α} {l' : List β} {f : α → Except Fault γ} {g : β → Except Fault δ}
    (h : List.Forall₂ r l l') (hstep : ∀ a b, r a b → Agree t (f a) (g b)) :
    Agree (List.Forall₂ t) (l.mapM f) (l'.mapM g) := by
  induction h with
  | nil => exact .ok .nil
  | cons hab _ ih =>
    rw [mapM_cons_eq, mapM_cons_eq]
    refine (hstep _ _ hab).bind fun c d hcd => ih.map fun cs ds hcds => ?_
    exact .cons hcd hcds

theorem of_eq {x y : Except Fault α} (h : x = y) : Agree (· = ·) x y := by
  subst h
  cases x with
  | ok a => exact .ok rfl
  | error f => exact .error f

theorem eq {x y : Except Fault α} (h : Agree (· = ·) x y) : x = y := by
  cases h with
  | ok h => rw [h]
  | error f => rfl

/-- Steps that give equal outcomes for related results give them for outcomes that agree. -/
theorem bind_eq {x : Except Fault α} {y : Except Fault β} {f : α → Except Fault γ}
    {g : β → Except Fault γ} (h : Agree r x y) (hnext : ∀ a b, r a b → f a = g b) :
    x.bind f = y.bind g :=
  (h.bind fun a b hab => of_eq (hnext a b hab)).eq

theorem map_eq {x : Except Fault α} {y : Except Fault β} {f : α → γ} {g : β → γ}
    (h : Agree r x y) (hnext : ∀ a b, r a b → f a = g b) : x.map f = y.map g :=
  (h.map (t := (· = ·)) hnext).eq

end Agree

/-- Related lists look alike to functions that cannot tell related items apart. -/
theorem map_eq_of_forall₂ {l : List α} {l' : List β} {f : α → γ} {g : β → γ}
    (h : List.Forall₂ r l l') (heq : ∀ a b, r a b → f a = g b) : l.map f = l'.map g := by
  induction h with
  | nil => rfl
  | cons hab _ ih => rw [List.map_cons, List.map_cons, heq _ _ hab, ih]

namespace Script

variable {cfg cfg' : Config} {s s' : Schema} {sequences sequences' : Keyed Sequence}

/-- **Scripts agree if what they are made of does**: the sequences, the order of tables, what each
table contributes, and how each subject is written. -/
theorem agree_generate {sameEntry : String × Table → String × Table → Prop}
    {same : Subject → Subject → Prop} {alike : String → String → Prop}
    (htables : cfg.tables = cfg'.tables) (hkeys : cfg.foreignKeys = cfg'.foreignKeys)
    (hsequences : List.Forall₂ same (sequenceSubjects sequences) (sequenceSubjects sequences'))
    (horder : Agree (List.Forall₂ sameEntry) s.inOrder s'.inOrder)
    (hentry : ∀ a b, sameEntry a b → List.Forall₂ same (tableSubjects a) (tableSubjects b) ∧
      List.Forall₂ same (foreignKeySubjects a) (foreignKeySubjects b))
    (hwrite : ∀ x y, same x y → Agree alike (x.write cfg s).outcome (y.write cfg' s').outcome) :
    Agree (List.Forall₂ fun a b => same a.subject b.subject ∧ alike a.text b.text)
      (generate cfg s sequences).outcome (generate cfg' s' sequences').outcome := by
  have hrender (x y : Subject) (h : same x y) :
      Agree (fun a b => same a.subject b.subject ∧ alike a.text b.text)
        (x.render cfg s).outcome (y.render cfg' s').outcome := by
    rw [outcome_render, outcome_render]
    exact (hwrite x y h).map fun text text' htext => ⟨h, htext⟩
  have hordered (order order' : List (String × Table)) (h : List.Forall₂ sameEntry order order') :
      List.Forall₂ same (orderedSubjects cfg order) (orderedSubjects cfg' order') := by
    unfold orderedSubjects
    rw [← htables, ← hkeys]
    refine List.rel_append ?_ ?_
    · split
      · exact List.rel_flatMap h fun a b hab => (hentry a b hab).1
      · exact .nil
    · split
      · exact List.rel_flatMap h fun a b hab => (hentry a b hab).2
      · exact .nil
  rw [outcome_generate, outcome_generate]
  refine (Agree.mapM hsequences hrender).bind fun first first' hfirst => ?_
  refine horder.bind fun order order' horder => ?_
  refine (Agree.mapM (hordered order order' horder) hrender).map fun rest rest' hrest => ?_
  exact List.rel_append hfirst hrest

end Script

end SchemaScript
