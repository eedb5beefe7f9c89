import Powerline.Link.Reading
import Powerline.Modem

/-!
# Dialogues

What a caller does with the modem is a dialogue: it asks for one thing at a time and goes on
according to what it gets. A dialogue has a memory, which it reads and writes as it goes; whoever
carries it out decides how its requests are met. A dialogue ends with a value or an error, and the
first error that is not caught ends it.
-/

namespace Powerline

/-- A dialogue with memory `σ` that ends with a value in `α`. -/
inductive Dialogue (σ α : Type) : Type where
  /-- The end. -/
  | done (result : Except Error α)
  /-- Looks at the memory. -/
  | inspect (next : σ → Dialogue σ α)
  /-- Replaces the memory. -/
  | store (memory : σ) (next : Dialogue σ α)
  /-- Looks at the clock. -/
  | clock (next : Instant → Dialogue σ α)
  /-- Sends a packet and waits for its echo. -/
  | command (packet : Packet) (next : Except Error Packet → Dialogue σ α)
  /-- Sends a message and waits for the device's answer. -/
  | send (message : Message) (next : Except Error Message → Dialogue σ α)
  /-- Subscribes to messages. -/
  | subscribe (pattern : Pattern) (capacity : Nat) (next : SubscriptionId → Dialogue σ α)
  /-- Gives a subscription up. -/
  | discard (id : SubscriptionId) (next : Dialogue σ α)
  /-- Waits for a message, for ever if there is no timeout. -/
  | receive (id : SubscriptionId) (timeout : Option Duration)
      (next : Except Error Message → Dialogue σ α)
  /-- Receives messages until a link table is complete or one does not come in time. -/
  | readTable (id : SubscriptionId) (timeout : Duration) (reading : LinkReading)
      (next : Except Error Unit → LinkReading → Dialogue σ α)

namespace LinkReading

/-- Takes one message in; true if it shows that the table is complete. -/
def observe (reading : LinkReading) (message : Message) : LinkReading × Bool :=
  match message.linkRequest? with
  | some request => reading.accept request
  | none => (reading, false)

end LinkReading

namespace Dialogue

variable {σ τ α β : Type}

/-- One dialogue after the other; an error of the first ends both. -/
def bind (first : Dialogue σ α) (second : α → Dialogue σ β) : Dialogue σ β :=
  match first with
  | done (.ok value) => second value
  | done (.error error) => done (.error error)
  | inspect next => inspect fun memory => (next memory).bind second
  | store memory next => store memory (next.bind second)
  | clock next => clock fun now => (next now).bind second
  | command packet next => command packet fun result => (next result).bind second
  | send message next => send message fun result => (next result).bind second
  | subscribe pattern capacity next =>
      subscribe pattern capacity fun id => (next id).bind second
  | discard id next => discard id (next.bind second)
  | receive id timeout next => receive id timeout fun result => (next result).bind second
  | readTable id timeout reading next =>
      readTable id timeout reading fun result reading => (next result reading).bind second

instance : Monad (Dialogue σ) where
  pure value := done (.ok value)
  bind := bind

/-- The dialogue with its end as a value, so that an error does not end what comes behind. -/
def attempt : Dialogue σ α → Dialogue σ (Except Error α)
  | done result => done (.ok result)
  | inspect next => inspect fun memory => (next memory).attempt
  | store memory next => store memory next.attempt
  | clock next => clock fun now => (next now).attempt
  | command packet next => command packet fun result => (next result).attempt
  | send message next => send message fun result => (next result).attempt
  | subscribe pattern capacity next => subscribe pattern capacity fun id => (next id).attempt
  | discard id next => discard id next.attempt
  | receive id timeout next => receive id timeout fun result => (next result).attempt
  | readTable id timeout reading next =>
      readTable id timeout reading fun result reading => (next result reading).attempt

/-- A dialogue on a part of a larger memory. -/
def within (part : τ → σ) (replace : σ → τ → τ) : Dialogue σ α → Dialogue τ α
  | done result => done result
  | inspect next => inspect fun memory => (next (part memory)).within part replace
  | store memory next =>
      inspect fun whole => store (replace memory whole) (next.within part replace)
  | clock next => clock fun now => (next now).within part replace
  | command packet next => command packet fun result => (next result).within part replace
  | send message next => send message fun result => (next result).within part replace
  | subscribe pattern capacity next =>
      subscribe pattern capacity fun id => (next id).within part replace
  | discard id next => discard id (next.within part replace)
  | receive id timeout next => receive id timeout fun result => (next result).within part replace
  | readTable id timeout reading next =>
      readTable id timeout reading fun result reading =>
        (next result reading).within part replace

/-- The dialogue that ends at once with this result. -/
def ofExcept (result : Except Error α) : Dialogue σ α := done result

/-- The memory. -/
def memory : Dialogue σ σ := inspect fun memory => pure memory

/-- Puts something else into the memory. -/
def setMemory (memory : σ) : Dialogue σ Unit := store memory (pure ())

/-- The time. -/
def now : Dialogue σ Instant := clock fun now => pure now

/-- Sends a packet; its echo. -/
def commandPacket (packet : Packet) : Dialogue σ Packet := command packet done

/-- Sends a message; the device's answer, also if it is a refusal. -/
def sendMessage (message : Message) : Dialogue σ Message := send message done

/-- The next message of a subscription. -/
def receiveWithin (id : SubscriptionId) (timeout : Duration) : Dialogue σ Message :=
  receive id (some timeout) done

/-- The next message of a subscription, without a limit of time; none when it has ended. -/
def receiveAny (id : SubscriptionId) : Dialogue σ (Option Message) :=
  receive id none fun result => pure result.toOption

/-- A dialogue with a subscription of its own, which it gives up however it ends. -/
def withSubscription (pattern : Pattern) (capacity : Nat)
    (body : SubscriptionId → Dialogue σ α) : Dialogue σ α :=
  subscribe pattern capacity fun id => do
    let result ← (body id).attempt
    discard id (done result)

/-- Reads a link table from a subscription; how that ended, and what was read. -/
def collectTable (id : SubscriptionId) (timeout : Duration) :
    Dialogue σ (Except Error Unit × LinkReading) :=
  readTable id timeout {} fun result reading => pure (result, reading)

end Dialogue

end Powerline
