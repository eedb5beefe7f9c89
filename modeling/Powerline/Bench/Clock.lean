import Powerline.Bench.Carry

/-!
# The clock of the bench

Time moves in whole milliseconds from one deadline to the next. A wait ends in the first
millisecond at or behind its deadline, and everything that follows from that happens in the same
millisecond.
-/

namespace Powerline.Bench

/-- The deadline of a call that waits for a message. -/
def Call.deadline? (call : Call) : Option Instant :=
  match call.wait with
  | .mail _ deadline _ _ => deadline
  | _ => none

/-- A call that has waited too long. -/
def isLate (bench : Bench) (call : Call) : Bool :=
  call.deadline?.any (· ≤ bench.now)

/-- The millisecond in which the next wait ends. -/
def nextTimer? (bench : Bench) : Option Nat :=
  let deadlines := bench.modem.deadline?.toList ++ bench.calls.filterMap Call.deadline?
  (deadlines.map Duration.ceilMilliseconds).min?

/-- The call with this number goes on if it has waited too long. -/
def expireCall (bench : Bench) (number : Nat) : Bench :=
  let expired := bench.calls.findSome? fun call =>
    match call.wait with
    | .mail _ (some deadline) _ late =>
        if call.caller.number = number ∧ deadline ≤ bench.now then some (call.caller, late)
        else none
    | _ => none
  match expired with
  | some (caller, late) => ((bench.unpark number).advance caller late).settle
  | none => bench

/-- All waits that have come to their end do end. -/
def expireAll (bench : Bench) : Bench :=
  let bench := (bench.happen .tick).settle
  ((bench.calls.filter bench.isLate).map fun call => call.caller.number).foldl expireCall bench

/-- Lets time pass from one deadline to the next, from a given time up to and including a
target. -/
def passFrom (bench : Bench) (target time : Nat) : Bench :=
  match bench.nextTimer? with
  | none => { bench with time := target }
  | some timer =>
      let next := max timer (time + 1)
      if _due : next ≤ target then (expireAll { bench with time := next }).passFrom target next
      else { bench with time := target }
termination_by target - time

/-- Lets so many milliseconds pass. -/
def pass (bench : Bench) (milliseconds : Nat) : Bench :=
  bench.passFrom (bench.time + milliseconds) bench.time

end Powerline.Bench
