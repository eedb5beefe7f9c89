import Powerline.Bench

/-!
# Carrying calls out

A call goes on until it has to wait for the modem, for a message or for its end. A call that asks
for a mailbox with more room than there can be breaks off and has no end. The bench is at
rest when no call can go on, the modem has taken all controls, and nothing is left on the bench
that neither a name nor a call stands for.
-/

namespace Powerline.Bench

/-- What a result of the modem means to a call that waits for it. -/
def Wait.resumeWith? (ticket : Ticket) (result : Except Error Answer) : Wait → Option Script
  | .echo awaited next =>
      if awaited = ticket then
        match result with
        | .ok (.echo packet) => some (next (.ok packet))
        | .ok (.reply _) => some (next (.error .closed))
        | .error error => some (next (.error error))
      else none
  | .reply awaited next =>
      if awaited = ticket then
        match result with
        | .ok (.reply message) => some (next (.ok message))
        | .ok (.echo _) => some (next (.error .closed))
        | .error error => some (next (.error error))
      else none
  | .mail .. => none

/-- What a subscription has at once: its oldest message, or its end. -/
def poll (bench : Bench) (id : SubscriptionId) : Option (Except Error Message) :=
  match bench.modem.mailbox? id with
  | none => some (.error .closed)
  | some mailbox =>
      match mailbox.waiting with
      | message :: _ => some (.ok message)
      | [] => if mailbox.isOpen then none else some (.error .closed)

/-- The messages that wait in a mailbox. -/
def waiting (bench : Bench) (id : SubscriptionId) : List Message :=
  (bench.modem.mailbox? id).elim [] Mailbox.waiting

/-- The end of a wait of this length. A wait that would end beyond the reach of the clock has no
end. -/
def deadline? (bench : Bench) (timeout : Duration) : Option Instant :=
  Instant.after? bench.now timeout

/-- Takes messages out of a mailbox. -/
def receive (bench : Bench) (id : SubscriptionId) : (count : Nat) → Bench
  | 0 => bench
  | count + 1 => (bench.happen (.receive id)).receive id count

/-- Takes messages into a reading until it is complete: the reading, whether it is complete, and
how many messages it took. -/
def absorb (reading : LinkReading) : List Message → LinkReading × Bool × Nat
  | [] => (reading, false, 0)
  | message :: rest =>
      match reading.observe message with
      | (reading, true) => (reading, true, 1)
      | (reading, false) =>
          let (reading, complete, count) := absorb reading rest
          (reading, complete, count + 1)

/-- Subscriptions end. -/
def discardAll (bench : Bench) (ids : List SubscriptionId) : Bench :=
  ids.foldl (fun bench id => bench.happen (.discard id)) bench

/-- A call ends. A device that it opened takes its place on the bench, if the place is still
there. -/
def finish (bench : Bench) (caller : Caller) (result : Except Error Value) : Bench :=
  let bench := bench.discardAll caller.subscriptions
  let bench := { bench with
    completed := bench.completed ++ [⟨caller.number, bench.time, result⟩]
    ended := caller.number :: bench.ended }
  match caller.opens, result with
  | some (place, address), .ok (.engine engine) =>
      bench.replace place (.device (.ofConnection ⟨bench.config, address, engine⟩))
  | _, _ => bench

/-- A call has to wait. -/
def park (bench : Bench) (caller : Caller) (wait : Wait) : Bench :=
  { bench with calls := bench.calls ++ [⟨caller, wait⟩] }

/-- A call goes on as far as it can. -/
def advance (bench : Bench) (caller : Caller) : Script → Bench
  | .done result => bench.finish caller result
  | .inspect next => bench.advance caller (next bench.memory)
  | .store memory next => advance { bench with memory } caller next
  | .clock next => bench.advance caller (next bench.now)
  | .command packet next =>
      (bench.happen (.submit (.packet packet))).park caller (.echo bench.modem.nextTicket next)
  | .send message next =>
      (bench.happen (.submit (.message message))).park caller (.reply bench.modem.nextTicket next)
  | .subscribe pattern capacity next =>
      if capacity > Mailbox.maxCapacity then bench.discardAll caller.subscriptions
      else
        let id := bench.nextSubscription
        let bench := bench.happen (.subscribe id pattern capacity)
        let caller := { caller with subscriptions := id :: caller.subscriptions }
        advance { bench with nextSubscription := id + 1 } caller (next id)
  | .discard id next =>
      let caller := { caller with subscriptions := caller.subscriptions.erase id }
      (bench.happen (.discard id)).advance caller next
  | .receive id timeout next =>
      match bench.poll id with
      | some result => (bench.receive id 1).advance caller (next result)
      | none =>
          if timeout = some 0 then bench.advance caller (next (.error .readTimeout))
          else
            bench.park caller <|
              .mail id (timeout.bind bench.deadline?) (.receive id timeout next)
                (next (.error .readTimeout))
  | .readTable id timeout reading next =>
      let (reading, complete, count) := absorb reading (bench.waiting id)
      let bench := bench.receive id count
      if complete then bench.advance caller (next (.ok ()) reading)
      else if !bench.modem.isListening id then
        bench.advance caller (next (.error .closed) reading)
      else if timeout = 0 then bench.advance caller (next (.error .readTimeout) reading)
      else
        bench.park caller <|
          .mail id (bench.deadline? timeout) (.readTable id timeout reading next)
            (next (.error .readTimeout) reading)

/-- The call no longer waits. -/
def unpark (bench : Bench) (number : Nat) : Bench :=
  { bench with calls := bench.calls.filter fun call => call.caller.number ≠ number }

/-- Passes a result of the modem on to the call that waits for it, if it still does. -/
def passOn (bench : Bench) (ticket : Ticket) (result : Except Error Answer) : Bench :=
  let resumed := bench.calls.findSome? fun call =>
    (Wait.resumeWith? ticket result call.wait).map fun script => (call.caller, script)
  match resumed with
  | some (caller, script) => (bench.unpark caller.number).advance caller script
  | none => bench

/-- The script with which a call can go on because its subscription has something. -/
def resumable? (bench : Bench) (call : Call) : Option (Caller × Script) :=
  match call.wait with
  | .mail id _ resume _ => if (bench.poll id).isSome then some (call.caller, resume) else none
  | _ => none

/-- A thing leaves the bench. -/
def remove (bench : Bench) (thing : Thing) : Bench :=
  let bench := { bench with things := bench.things.filter fun other => other.id ≠ thing.id }
  match thing.kind with
  | .subscription id => bench.happen (.discard id)
  | _ => bench

/-- The next thing that happens by itself; none if the bench is at rest. -/
def settleOnce? (bench : Bench) : Option Bench :=
  match bench.answers with
  | (ticket, result) :: rest => some (passOn { bench with answers := rest } ticket result)
  | [] =>
      if !bench.modem.controls.isEmpty then some (bench.happen .take)
      else match bench.calls.findSome? bench.resumable? with
        | some (caller, script) => some ((bench.unpark caller.number).advance caller script)
        | none =>
            match bench.things.find? fun thing => thing.name.isNone && !bench.isHeld thing.id with
            | some thing => some (bench.remove thing)
            | none =>
                if bench.modem.isRunning && !bench.isWanted then some (bench.happen .abandon)
                else none

/-- Lets things happen, but not more than so many. -/
def settleWithin (bench : Bench) : (bound : Nat) → Bench
  | 0 => bench
  | bound + 1 =>
      match bench.settleOnce? with
      | some next => next.settleWithin bound
      | none => bench

/-- More than can happen by itself while the line and the clock stand still: a call waits again
after a few steps, and a result is passed on once. -/
def settleBound (bench : Bench) : Nat :=
  let waiting := (bench.modem.mailboxes.flatMap Mailbox.waiting).length
  1000 * (bench.calls.length + bench.things.length + 1) + bench.modem.controls.length + waiting

/-- Lets everything happen that happens by itself. -/
def settle (bench : Bench) : Bench := bench.settleWithin bench.settleBound

end Powerline.Bench
