import Powerline.Error

/-!
# Retrying

An action that failed in a way that another attempt may mend is repeated, up to a number of
attempts. There is always a first attempt.
-/

namespace Powerline

/-- Repeats an action while it fails with a retryable error and attempts are left. -/
def retry {m : Type → Type} [Monad m] {α : Type} (action : m (Except Error α)) :
    (attempts : Nat) → m (Except Error α)
  | 0 | 1 => action
  | attempts + 2 => do
      match ← action with
      | .error error =>
          if error.isRetryable then retry action (attempts + 1) else return .error error
      | .ok value => return .ok value

/-- The outcomes that successive calls of an action will have; the last one repeats. -/
structure ScriptedAction (α : Type) where
  outcomes : List (Except Error α)
  /-- The calls made so far. -/
  calls : Nat := 0

/-- One call of a scripted action. Without outcomes it finds the line closed. -/
def ScriptedAction.call {α : Type} : StateM (ScriptedAction α) (Except Error α) := do
  let action ← get
  let outcome := action.outcomes.headD (.error .closed)
  let rest := if action.outcomes.length > 1 then action.outcomes.drop 1 else action.outcomes
  set (ScriptedAction.mk rest (action.calls + 1))
  return outcome

end Powerline
