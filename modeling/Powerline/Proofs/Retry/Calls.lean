import Mathlib.Data.ENat.Lattice
import Powerline.Proofs.Retry

/-!
# The number of attempts

An action with a state of its own would have one outcome after the other, for ever. The first of
them that is a value, or an error that another attempt does not mend, settles the matter
(`settlingCall`). A repeated action is called up to that one, unless the attempts run out before
(`retry_calls_until_settled`).
-/

namespace Powerline

/-- Another attempt may mend it: nobody answered in time, the modem refused, or the device was not
ready yet. -/
def Error.Transient (error : Error) : Prop :=
  error = .ackTimeout ∨ error = .readTimeout ∨ (∃ byte, error = .modemNak byte) ∨
    error = .nak .preNak

variable {σ α : Type}

/-- The outcome leaves nothing to try. -/
inductive Settles : Except Error α → Prop where
  | value (value : α) : Settles (.ok value)
  | lasting {error : Error} (lasts : ¬ error.Transient) : Settles (.error error)

theorem mayMend_iff {outcome : Except Error α} :
    mayMend outcome = true ↔ ∃ error, outcome = .error error ∧ error.Transient := by
  cases outcome with
  | ok value => simp [mayMend]
  | error error =>
      change error.isRetryable = true ↔ _
      rw [Error.isRetryable_iff]
      simp [Error.Transient]

/-- The attempts go on after just those outcomes that leave something to try. -/
theorem settles_iff {outcome : Except Error α} : Settles outcome ↔ mayMend outcome = false := by
  rw [← Bool.not_eq_true, mayMend_iff]
  constructor
  · rintro settles ⟨error, rfl, transient⟩
    cases settles with
    | lasting lasts => exact lasts transient
  · intro untransient
    cases outcome with
    | ok value => exact .value value
    | error error => exact .lasting fun transient => untransient ⟨error, rfl, transient⟩

/-! ### One call after the other -/

section Action

variable (action : StateM σ (Except Error α)) (start : σ)

/-- The state of an action after some calls. -/
def stateAfter (calls : ℕ) : σ :=
  (fun state => (action.run state).2)^[calls] start

/-- The outcome of an action that is called after some other calls. -/
def outcomeAfter (calls : ℕ) : Except Error α :=
  (action.run (stateAfter action start calls)).1

theorem map_outcomeAfter_range_succ (calls : ℕ) :
    (List.range (calls + 1)).map (outcomeAfter action start)
      = (action.run start).1
          :: (List.range calls).map (outcomeAfter action (action.run start).2) := by
  rw [List.range_succ_eq_map, List.map_cons, List.map_map]
  rfl

/-- As long as two attempts are left, the first call either settles the matter or leaves it to the
calls behind. -/
theorem run_retry_again (attempts : ℕ) :
    (retry action (attempts + 2)).run start
      = if mayMend (action.run start).1 then (retry action (attempts + 1)).run (action.run start).2
        else action.run start := by
  rw [retry_again, StateT.run_bind]
  change (if mayMend (action.run start).1 then _ else _ : StateM σ _).run _ = _
  split
  · rfl
  · rfl

/-- A repeated action is called so many times in a row, and the last outcome is that of the
whole. -/
theorem run_retry (attempts : ℕ) :
    ∃ last,
      (retry action attempts).run start
        = (outcomeAfter action start last, stateAfter action start (last + 1)) ∧
      Tries attempts ((List.range last).map (outcomeAfter action start))
        (outcomeAfter action start last) := by
  -- No attempts are one attempt; with more than one the rest starts where the first call ended.
  induction attempts generalizing start with
  | zero => exact ⟨0, rfl, .once (Nat.zero_le 1)⟩
  | succ attempts ih =>
      cases attempts with
      | zero => exact ⟨0, rfl, .once (Nat.le_refl 1)⟩
      | succ attempts =>
          rw [run_retry_again]
          cases mends : mayMend (action.run start).1 with
          | true =>
              rcases ih (action.run start).2 with ⟨last, run, tries⟩
              refine ⟨last + 1, ?_, ?_⟩
              · rw [if_pos rfl, run]
                rfl
              · rw [map_outcomeAfter_range_succ]
                exact .again mends tries
          | false => exact ⟨0, rfl, .final mends⟩

end Action

/-! ### The call that settles the matter -/

/-- The number of the first call whose outcome settles the matter; infinite if there is none. -/
noncomputable def settlingCall (outcomes : ℕ → Except Error α) : ℕ∞ :=
  ⨅ (call : ℕ) (_ : Settles (outcomes call)), ((call + 1 : ℕ) : ℕ∞)

section Sequence

variable {outcomes : ℕ → Except Error α} {attempts last : ℕ}

/-- The attempts at an action, with its outcomes taken from a sequence. -/
theorem Tries.outcomes_in_turn
    (tries : Tries attempts ((List.range last).map outcomes) (outcomes last)) :
    last < max attempts 1 ∧ (∀ call < last, mayMend (outcomes call) = true) ∧
      (mayMend (outcomes last) = true → last + 1 = max attempts 1) :=
  ⟨by simpa using tries.within, by simpa using tries.mendable, by simpa using tries.spent⟩

theorem settlingCall_le (settles : Settles (outcomes last)) :
    settlingCall outcomes ≤ (last + 1 : ℕ) :=
  iInf₂_le last settles

theorem le_settlingCall (unsettled : ∀ call < last, ¬ Settles (outcomes call)) :
    ((last + 1 : ℕ) : ℕ∞) ≤ settlingCall outcomes := by
  refine le_iInf₂ fun call settles => Nat.cast_le.mpr ?_
  by_contra fewer
  exact unsettled call (by omega) settles

/-- The attempts end with the call that settles the matter, or because none are left. -/
theorem Tries.calls_eq (tries : Tries attempts ((List.range last).map outcomes) (outcomes last)) :
    ((last + 1 : ℕ) : ℕ∞) = min (settlingCall outcomes) (max attempts 1 : ℕ) := by
  rcases tries.outcomes_in_turn with ⟨within, mendable, spent⟩
  have reached : ((last + 1 : ℕ) : ℕ∞) ≤ settlingCall outcomes := by
    apply le_settlingCall
    intro call earlier settles
    have mends := mendable call earlier
    rw [settles_iff.mp settles] at mends
    contradiction
  cases mends : mayMend (outcomes last) with
  | true => rw [← spent mends, min_eq_right reached]
  | false =>
      have settled := settlingCall_le (settles_iff.mpr mends)
      rw [le_antisymm settled reached, min_eq_left (Nat.cast_le.mpr within)]

end Sequence

/-- The action with these outcomes. Its state is the number of calls that were made. -/
def counting (outcomes : ℕ → Except Error α) : StateM ℕ (Except Error α) := do
  let calls ← get
  set (calls + 1)
  return outcomes calls

theorem stateAfter_counting (outcomes : ℕ → Except Error α) (calls : ℕ) :
    stateAfter (counting outcomes) 0 calls = calls := by
  induction calls with
  | zero => rfl
  | succ calls ih =>
      rw [stateAfter, Function.iterate_succ_apply']
      exact congrArg (· + 1) ih

theorem outcomeAfter_counting (outcomes : ℕ → Except Error α) :
    outcomeAfter (counting outcomes) 0 = outcomes := by
  funext calls
  change outcomes (stateAfter (counting outcomes) 0 calls) = outcomes calls
  rw [stateAfter_counting]

/-- Whatever outcomes an action would have, a repeated action is called up to the one that settles
the matter, or until the attempts are used up; there is always one. The outcome of the last call is
that of the whole. So there is no call after a value or an error that another attempt does not mend,
and an error that it may mend is given only when no attempt is left. -/
theorem retry_calls_until_settled (attempts : ℕ) (outcomes : ℕ → Except Error α) :
    ∃ last : ℕ,
      (retry (counting outcomes) attempts).run 0 = (outcomes last, last + 1) ∧
      ((last + 1 : ℕ) : ℕ∞) = min (settlingCall outcomes) (max attempts 1 : ℕ) ∧
      (∀ call < last, ∃ error, outcomes call = .error error ∧ error.Transient) ∧
      ∀ error, outcomes last = .error error → last + 1 < max attempts 1 → ¬ error.Transient := by
  rcases run_retry (counting outcomes) 0 attempts with ⟨last, run, tries⟩
  rw [outcomeAfter_counting, stateAfter_counting] at run
  rw [outcomeAfter_counting] at tries
  rcases tries.outcomes_in_turn with ⟨_, mendable, spent⟩
  refine ⟨last, run, tries.calls_eq, ?_, ?_⟩
  · intro call earlier
    exact mayMend_iff.mp (mendable call earlier)
  · intro error failed left transient
    have used := spent (mayMend_iff.mpr ⟨error, failed, transient⟩)
    omega

/-- The third attempt of three is made, and it is the last. -/
example :
    (retry (counting fun call => if call < 2 then .error .ackTimeout else .ok call) 3).run 0
      = (.ok 2, 3) := rfl

end Powerline
