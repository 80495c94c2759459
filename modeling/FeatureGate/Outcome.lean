namespace FeatureGate

-- How a call ends. An aborted call died half-way: it has neither an answer nor
-- an error, and whoever made the call dies with it.
inductive Outcome (ε α : Type) where
  | done (answer : α)
  | failed (error : ε)
  | aborted
deriving DecidableEq, Repr

namespace Outcome

def mapError (f : ε → δ) : Outcome ε α → Outcome δ α
  | done answer => done answer
  | failed error => failed (f error)
  | aborted => aborted

def ofExcept : Except ε α → Outcome ε α
  | .ok answer => done answer
  | .error error => failed error

end Outcome

-- A step on a world of type σ. The world is handed on however the step ends, so
-- what a failed or aborted step left behind stays visible.
def Action (σ ε α : Type) : Type := σ → Outcome ε α × σ

namespace Action

def pure (answer : α) : Action σ ε α := fun s => (.done answer, s)

def bind (first : Action σ ε α) (next : α → Action σ ε β) : Action σ ε β := fun s =>
  match first s with
  | (.done answer, s') => next answer s'
  | (.failed error, s') => (.failed error, s')
  | (.aborted, s') => (.aborted, s')

instance : Monad (Action σ ε) where
  pure := Action.pure
  bind := Action.bind

def fail (error : ε) : Action σ ε α := fun s => (.failed error, s)

def abort : Action σ ε α := fun s => (.aborted, s)

def ofOutcome (outcome : Outcome ε α) : Action σ ε α := fun s => (outcome, s)

def ofExcept (result : Except ε α) : Action σ ε α := ofOutcome (.ofExcept result)

def refuse : Option ε → Action σ ε Unit
  | some error => fail error
  | none => pure ()

def gets (f : σ → α) : Action σ ε α := fun s => (.done (f s), s)

def modify (f : σ → σ) : Action σ ε Unit := fun s => (.done (), f s)

def mapError (f : ε → δ) (action : Action σ ε α) : Action σ δ α := fun s =>
  ((action s).1.mapError f, (action s).2)

def within (part : τ → σ) (place : σ → τ → τ) (action : Action σ ε α) : Action τ ε α := fun t =>
  ((action (part t)).1, place (action (part t)).2 t)

@[simp] theorem pure_apply (answer : α) (s : σ) :
    (Pure.pure answer : Action σ ε α) s = (.done answer, s) := rfl

@[simp] theorem fail_apply (error : ε) (s : σ) : (fail error : Action σ ε α) s = (.failed error, s) := rfl

theorem bind_apply (first : Action σ ε α) (next : α → Action σ ε β) (s : σ) :
    (first >>= next) s = match first s with
      | (.done answer, s') => next answer s'
      | (.failed error, s') => (.failed error, s')
      | (.aborted, s') => (.aborted, s') := rfl

theorem bind_done {first : Action σ ε α} {next : α → Action σ ε β} (h : first s = (.done answer, s')) :
    (first >>= next) s = next answer s' := by simp [bind_apply, h]

theorem bind_failed {first : Action σ ε α} {next : α → Action σ ε β}
    (h : first s = (.failed error, s')) : (first >>= next) s = (.failed error, s') := by
  simp [bind_apply, h]

theorem bind_aborted {first : Action σ ε α} {next : α → Action σ ε β} (h : first s = (.aborted, s')) :
    (first >>= next) s = (.aborted, s') := by simp [bind_apply, h]

theorem mapError_done {action : Action σ ε α} {f : ε → δ} (h : action s = (.done answer, s')) :
    action.mapError f s = (.done answer, s') := by simp [mapError, h, Outcome.mapError]

theorem mapError_failed {action : Action σ ε α} {f : ε → δ} (h : action s = (.failed error, s')) :
    action.mapError f s = (.failed (f error), s') := by simp [mapError, h, Outcome.mapError]

theorem mapError_aborted {action : Action σ ε α} {f : ε → δ} (h : action s = (.aborted, s')) :
    action.mapError f s = (.aborted, s') := by simp [mapError, h, Outcome.mapError]

instance : LawfulMonad (Action σ ε) := LawfulMonad.mk' (Action σ ε)
  (by
    intro α x; funext s; show Action.bind x (fun a => Action.pure a) s = x s
    simp only [Action.bind, Action.pure]; split <;> simp_all)
  (by intros; rfl)
  (by
    intro α β γ x f g; funext s
    show Action.bind (Action.bind x f) g s = Action.bind x (fun a => Action.bind (f a) g) s
    simp only [Action.bind]; cases h : x s with
    | mk outcome s' => cases outcome <;> rfl)

end Action
end FeatureGate
