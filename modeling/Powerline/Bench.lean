import Powerline.Device
import Powerline.Frame
import Powerline.LinkDatabase
import Powerline.Modem.Step

/-!
# The bench

On the bench a modem and its callers run against a scripted line and a clock that moves only when
told to. Callers start calls, which are dialogues carried out in steps as the modem answers. The
bench also keeps the named things that calls work on: devices, link databases and subscriptions.

This module has the state of the bench; how calls are carried out, how the clock moves and what
can be done on the bench are in the modules below it.
-/

namespace Powerline

namespace Bench

/-- The number of a thing on the bench. -/
abbrev ThingId := Nat

/-- What callers can work on. -/
inductive ThingKind where
  | device (device : Device)
  | database (database : LinkDatabase)
  | subscription (id : SubscriptionId)
  /-- A place for a device that is being opened, or could not be. -/
  | reserved
  deriving Repr

/-- Who has the thing has the modem with it. -/
def ThingKind.wantsModem : ThingKind → Bool
  | reserved => false
  | device _ | database _ | subscription _ => true

/-- A thing on the bench. Without a name it stays only as long as a call holds it. -/
structure Thing where
  id : ThingId
  name : Option String
  kind : ThingKind
  deriving Repr

/-- What all calls remember: the copies of link tables by the thing they belong to, and the
directory of devices. -/
structure Memory where
  copies : List (ThingId × LinkCopy) := []
  directory : Directory := {}
  deriving Repr

namespace Memory

/-- The copy that belongs to a thing; at first it is empty and stale. -/
def copy (memory : Memory) (id : ThingId) : LinkCopy :=
  ((memory.copies.find? fun (owner, _) => owner = id).map Prod.snd).getD {}

/-- The memory with another copy for a thing. -/
def setCopy (memory : Memory) (id : ThingId) (copy : LinkCopy) : Memory :=
  { memory with copies := (id, copy) :: memory.copies.filter fun (owner, _) => owner ≠ id }

end Memory

/-- What a call brings when it succeeds. -/
inductive Value where
  | nothing
  | message (message : Message)
  /-- A message, or the end of the subscription. -/
  | received (message : Option Message)
  | packet (packet : Packet)
  | modemInfo (info : ModemInfo)
  | engine (engine : Engine)
  | level (level : UInt8)
  | deviceInfo (info : DeviceInfo)
  | records (records : List LinkRecord)
  deriving Repr

/-- What a call does. -/
abbrev Script := Dialogue Memory Value

/-- What a call keeps others from while it runs. -/
inductive Hold where
  | nothing
  /-- Others may use the thing, but not its link table or its engine. -/
  | shared (thing : ThingId)
  /-- No one else may use the thing. -/
  | exclusive (thing : ThingId)
  /-- No one else may use the directory. -/
  | directory
  deriving DecidableEq, Repr

/-- The thing that a call keeps on the bench. -/
def Hold.thing? : Hold → Option ThingId
  | shared thing | exclusive thing => some thing
  | nothing | directory => none

/-- A call apart from what it does. -/
structure Caller where
  /-- The number of the step that started the call. -/
  number : Nat
  hold : Hold
  /-- The device that the call opens: the place it takes on the bench, and its address. -/
  opens : Option (ThingId × Address) := none
  /-- The subscriptions that end with the call. -/
  subscriptions : List SubscriptionId := []
  deriving Repr

/-- What a call waits for. -/
inductive Wait where
  /-- The echo of a packet. -/
  | echo (ticket : Ticket) (next : Except Error Packet → Script)
  /-- The answer of a device. -/
  | reply (ticket : Ticket) (next : Except Error Message → Script)
  /-- A message or the end of a subscription, upon which the call resumes; late, if neither comes
  before the deadline. Without a deadline the call waits for good. -/
  | mail (id : SubscriptionId) (deadline : Option Instant) (resume late : Script)

/-- A call that waits. -/
structure Call where
  caller : Caller
  wait : Wait

/-- The end of a call. -/
structure Completion where
  number : Nat
  /-- The time in milliseconds. -/
  time : Nat
  result : Except Error Value
  deriving Repr

end Bench

/-- The state of the bench. -/
structure Bench where
  config : Config
  modem : Modem
  /-- The time in milliseconds. -/
  time : Nat := 0
  /-- How the line fails to take packets, if it does. -/
  failure : Option LineFailure := none
  /-- Octets from the line that make no packet yet. -/
  buffer : Bytes := []
  /-- The latest packet that the line took. -/
  lastWrite : Bytes := []
  /-- The line took a packet since an echo was last made up. -/
  hasWritten : Bool := false
  /-- The bench itself still wants the modem. -/
  wantsModem : Bool := true
  things : List Bench.Thing := []
  memory : Bench.Memory := {}
  calls : List Bench.Call := []
  /-- Results that the modem gave and that were not passed on yet. -/
  answers : List (Ticket × Except Error Answer) := []
  /-- The packets that the line took during a step, with their times. -/
  written : List (Nat × Bytes) := []
  /-- The calls that ended during a step. -/
  completed : List Bench.Completion := []
  /-- The calls that were started. -/
  started : List Nat := []
  /-- The calls that came to their end. -/
  ended : List Nat := []
  /-- The number of the current step. -/
  stepNumber : Nat := 0
  nextThing : Bench.ThingId := 0
  nextSubscription : SubscriptionId := 0
  /-- The modem shut the line down. -/
  isShut : Bool := false

namespace Bench

/-- A bench with a modem at work, if the settings are usable. -/
def start (config : Config) : Except Error Bench := do
  config.validate
  let filter : RelayFilter := { window := propagationDelay Powerline.maxHops true }
  return {
    config
    modem := {
      ackTimeout := config.ackTimeout
      filter := if config.dropsRelays then some filter else none } }

/-- The point in time. -/
def now (bench : Bench) : Instant := Duration.ofMilliseconds bench.time

/-- Takes note of what the modem did. -/
def note (bench : Bench) : Modem.Effect → Bench
  | .transmit _ packet none =>
      let bytes := Frame.encode packet
      { bench with
        written := bench.written ++ [(bench.time, bytes)]
        lastWrite := bytes
        hasWritten := true }
  | .transmit _ _ (some _) => bench
  | .answer ticket result => { bench with answers := bench.answers ++ [(ticket, result)] }
  | .receive _ _ => bench
  | .shut => { bench with isShut := true }

/-- Something happens to the modem. -/
def happen (bench : Bench) (event : Modem.Event) : Bench :=
  let (modem, effects) := bench.modem.step (fun _ => bench.failure) bench.now event
  effects.foldl note { bench with modem }

/-- The thing with a name. -/
def thing? (bench : Bench) (name : String) : Option Thing :=
  bench.things.find? fun thing => thing.name = some name

/-- A name stands for nothing any more. -/
def forget (bench : Bench) (name : String) : Bench :=
  { bench with
    things := bench.things.map fun thing =>
      if thing.name = some name then { thing with name := none } else thing }

/-- Puts a thing on the bench. Its name no longer stands for anything else. -/
def place (bench : Bench) (name : String) (kind : ThingKind) : Bench :=
  let bench := bench.forget name
  { bench with
    things := bench.things ++ [⟨bench.nextThing, some name, kind⟩]
    nextThing := bench.nextThing + 1 }

/-- Another thing in the place of one that is still on the bench. -/
def replace (bench : Bench) (id : ThingId) (kind : ThingKind) : Bench :=
  { bench with
    things := bench.things.map fun thing =>
      if thing.id = id then { thing with kind } else thing }

/-- Some call holds the thing. -/
def isHeld (bench : Bench) (id : ThingId) : Bool :=
  bench.calls.any fun call => call.caller.hold.thing? = some id

/-- Some call keeps everyone else from the thing. -/
def isBusy (bench : Bench) (id : ThingId) : Bool :=
  bench.calls.any fun call => call.caller.hold = .exclusive id

/-- Some call uses the directory. -/
def directoryIsBusy (bench : Bench) : Bool :=
  bench.calls.any fun call => call.caller.hold = .directory

/-- Someone wants the modem: the bench, a thing on it, or a call. -/
def isWanted (bench : Bench) : Bool :=
  bench.wantsModem || bench.things.any (·.kind.wantsModem) || !bench.calls.isEmpty

end Bench

end Powerline
