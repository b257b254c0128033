import SchemaScript.Script.Event
import SchemaScript.Script.Fault

/-! Runs: what was reported, in order, and how it ended.

A run that fails keeps the events up to its fault and does nothing after it. -/
namespace SchemaScript

structure Run (α : Type) where
  events : List Event
  outcome : Except Fault α

namespace Run
variable {α β : Type}

def emit (e : Event) : Run Unit := ⟨[e], .ok ()⟩

def ofExcept (x : Except Fault α) : Run α := ⟨[], x⟩

def andThen (x : Run α) (f : α → Run β) : Run β :=
  match x.outcome with
  | .ok a => ⟨x.events ++ (f a).events, (f a).outcome⟩
  | .error e => ⟨x.events, .error e⟩

instance : Monad Run where
  pure a := ⟨[], .ok a⟩
  bind := andThen

/-- One run per item, up to the first that fails. -/
def each (f : α → Run β) : List α → Run (List β)
  | [] => pure []
  | a :: rest => do
    let b ← f a
    let bs ← each f rest
    pure (b :: bs)

/-! ### Events and outcomes of a run put together from others -/

@[simp] theorem outcome_pure (a : α) : (pure a : Run α).outcome = .ok a := rfl

@[simp] theorem events_emit (e : Event) : (emit e).events = [e] := rfl

@[simp] theorem outcome_emit (e : Event) : (emit e).outcome = .ok () := rfl

@[simp] theorem outcome_ofExcept (x : Except Fault α) : (ofExcept x).outcome = x := rfl

theorem outcome_bind (x : Run α) (f : α → Run β) :
    (x >>= f).outcome = x.outcome.bind fun a => (f a).outcome := by
  show (andThen x f).outcome = _
  unfold andThen
  split <;> simp_all [Except.bind]

theorem outcome_emit_bind (e : Event) (f : Unit → Run β) :
    (emit e >>= f).outcome = (f ()).outcome := rfl

theorem outcome_bind_pure (x : Run α) (f : α → β) :
    (x >>= fun a => pure (f a)).outcome = x.outcome.map f := by
  rw [outcome_bind]
  cases x.outcome <;> rfl

theorem each_cons (f : α → Run β) (a : α) (rest : List α) :
    each f (a :: rest) = (do
      let b ← f a
      let bs ← each f rest
      pure (b :: bs)) := rfl

end Run

end SchemaScript
