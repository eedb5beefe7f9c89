import Powerline.Modem

/-!
# How the dispatcher works

One step handles one event: something a caller does, a packet from the modem, the end of the
line, or the end of a wait. After each step of its own the dispatcher transmits the next request if
none is in flight; a request whose write fails is answered with that failure, and the one behind it
is transmitted.

When the dispatcher stops, everything not answered yet is answered as closed, in the order of
submission, and all mailboxes close. What waits in them can still be received. The dispatcher
stops when a caller closes it, when no caller is left and when the line ends, and then it shuts
the line down. It also fails, and leaves the line as it is, when a wait would end beyond the reach
of the clock.
-/

namespace Powerline.Modem

/-- What can happen to the dispatcher. -/
inductive Event where
  /-- A caller submits a request. -/
  | submit (request : Request)
  /-- A caller subscribes, with room for so many messages. -/
  | subscribe (id : SubscriptionId) (pattern : Pattern) (capacity : Nat)
  /-- A subscriber wants no more messages. -/
  | unsubscribe (id : SubscriptionId)
  /-- A subscriber is gone, and its mailbox with it. -/
  | discard (id : SubscriptionId)
  /-- A subscriber takes the oldest message that waits for it. -/
  | receive (id : SubscriptionId)
  /-- A caller closes the modem. -/
  | close
  /-- The dispatcher takes the oldest control. -/
  | take
  /-- A packet arrives. -/
  | arrive (packet : Packet)
  /-- The line ends or fails while reading. -/
  | lineEnd
  /-- The wait of the request in flight may have ended. -/
  | tick
  /-- No caller is left. -/
  | abandon

/-- What the dispatcher does that others can see. -/
inductive Effect where
  /-- A packet is handed to the line, which may fail to take it. -/
  | transmit (ticket : Ticket) (packet : Packet) (failure : Option LineFailure)
  /-- A request gets its result. -/
  | answer (ticket : Ticket) (result : Except Error Answer)
  /-- A subscriber receives a message. -/
  | receive (id : SubscriptionId) (message : Message)
  /-- The line is shut down. -/
  | shut

/-- How the line takes the successive packets that are handed to it within one step. -/
abbrev Line := Nat → Option LineFailure

/-- A line that takes every packet. -/
def Line.sound : Line := fun _ => none

/-- A control is left in the channel. -/
def leave (modem : Modem) (control : Control) : Modem :=
  { modem with controls := modem.controls ++ [control] }

/-- The tickets of the requests that have no result yet, the oldest first. -/
def unanswered (modem : Modem) : List Ticket :=
  (modem.inFlight.map InFlight.ticket).toList ++ modem.queue.map Prod.fst
    ++ modem.controls.filterMap fun
      | .request ticket _ => some ticket
      | _ => none

/-- The dispatcher works no longer. -/
def halt (modem : Modem) : Modem × List Effect :=
  ({ modem with
      controls := []
      queue := []
      inFlight := none
      subscribers := []
      mailboxes := modem.mailboxes.map fun mailbox => { mailbox with isOpen := false }
      isRunning := false },
    modem.unanswered.map fun ticket => .answer ticket (.error .closed))

/-- The dispatcher stops and shuts the line down. -/
def stop (modem : Modem) : Modem × List Effect :=
  let (modem, effects) := modem.halt
  (modem, effects ++ [.shut])

/-- Transmits the first of the given requests that the line takes. The requests before it are
answered with the failure; those behind it wait on. The dispatcher fails if the wait for the echo
has no end. -/
def transmitFirst (line : Line) (now : Instant) (modem : Modem) :
    List (Ticket × Request) → Modem × List Effect
  | [] => ({ modem with queue := [] }, [])
  | (ticket, request) :: rest =>
      let transmission := Effect.transmit ticket request.toPacket (line 0)
      match line 0 with
      | none =>
          match Instant.after? now modem.ackTimeout with
          | some deadline =>
              let inFlight : InFlight := { ticket, request, stage := .awaitEcho, deadline }
              ({ modem with queue := rest, inFlight := some inFlight }, [transmission])
          | none =>
              let (modem, effects) := halt { modem with queue := (ticket, request) :: rest }
              (modem, transmission :: effects)
      | some failure =>
          let (modem, effects) := transmitFirst (fun write => line (write + 1)) now modem rest
          (modem, transmission :: .answer ticket (.error (.line failure)) :: effects)

/-- Transmits the next request if none is in flight. -/
def startNext (line : Line) (now : Instant) (modem : Modem) : Modem × List Effect :=
  match modem.inFlight with
  | some _ => (modem, [])
  | none => transmitFirst line now modem modem.queue

/-- Goes on with the work after some effects. -/
def proceed (line : Line) (now : Instant) (handled : Modem × List Effect) :
    Modem × List Effect :=
  let (modem, effects) := startNext line now handled.1
  (modem, handled.2 ++ effects)

/-- The message goes to every subscriber whose pattern it satisfies and whose mailbox is open. A
full mailbox loses it; a subscriber whose mailbox turns out to be closed is struck off. -/
def deliver (modem : Modem) (message : Message) : Modem :=
  let isWanted (id : SubscriptionId) : Bool :=
    modem.subscribers.any fun subscriber =>
      subscriber.id = id && subscriber.pattern.holds message
  { modem with
    subscribers := modem.subscribers.filter fun subscriber =>
      !subscriber.pattern.holds message || modem.isListening subscriber.id
    mailboxes := modem.mailboxes.map fun mailbox =>
      if mailbox.isOpen && isWanted mailbox.id then mailbox.post message else mailbox }

/-- A message that answers no request arrives: relayed copies are dropped, others delivered. -/
def dispatch (now : Instant) (modem : Modem) (message : Message) : Modem :=
  match modem.filter with
  | none => modem.deliver message
  | some filter =>
      match filter.observe now message with
      | (true, filter) => { modem with filter := some filter }
      | (false, filter) => deliver { modem with filter := some filter } message

/-- An echo arrives. It settles a packet, and starts the wait for the device's answer to a
message; a refusal by the modem settles either. An echo that nobody waits for is dropped. The
dispatcher fails if the wait for the device's answer has no end. -/
def handleEcho (now : Instant) (modem : Modem) (packet : Packet) : Modem × List Effect :=
  match modem.inFlight with
  | none => (modem, [])
  | some inFlight =>
      if !inFlight.isEchoedBy packet then (modem, [])
      else if packet.isNak then
        ({ modem with inFlight := none },
          [.answer inFlight.ticket (.error (.modemNak packet.opcode.byte))])
      else
        match inFlight.request with
        | .packet _ =>
            ({ modem with inFlight := none }, [.answer inFlight.ticket (.ok (.echo packet))])
        | .message _ =>
            match Instant.after? now modem.ackTimeout with
            | some deadline =>
                let waiting : InFlight := { inFlight with stage := .awaitReply, deadline }
                ({ modem with inFlight := some waiting }, [])
            | none => modem.halt

/-- A device's answer arrives. One that nobody waits for is dropped. -/
def handleAnswer (modem : Modem) (message : Message) : Modem × List Effect :=
  match modem.inFlight with
  | none => (modem, [])
  | some inFlight =>
      if inFlight.isAnsweredBy message then
        ({ modem with inFlight := none }, [.answer inFlight.ticket (.ok (.reply message))])
      else (modem, [])

/-- A packet arrives. Of the packets that are no echo only those with a readable message count. -/
def handlePacket (now : Instant) (modem : Modem) (packet : Packet) : Modem × List Effect :=
  if packet.opcode.isHost then modem.handleEcho now packet
  else if !packet.opcode.carriesMessage then (modem, [])
  else match packet.message with
    | .error _ => (modem, [])
    | .ok message =>
        if message.isAnswer then modem.handleAnswer message
        else (modem.dispatch now message, [])

/-- The wait of the request in flight has ended if its deadline has come. -/
def expire (now : Instant) (modem : Modem) : Modem × List Effect :=
  match modem.inFlight with
  | none => (modem, [])
  | some inFlight =>
      if inFlight.deadline ≤ now then
        ({ modem with inFlight := none }, [.answer inFlight.ticket (.error .ackTimeout)])
      else (modem, [])

/-- The dispatcher takes a control. -/
def handleControl (line : Line) (now : Instant) (modem : Modem) :
    Control → Modem × List Effect
  | .request ticket request =>
      proceed line now ({ modem with queue := modem.queue ++ [(ticket, request)] }, [])
  | .subscribe id pattern =>
      proceed line now ({ modem with subscribers := modem.subscribers ++ [⟨id, pattern⟩] }, [])
  | .unsubscribe id =>
      proceed line now
        ({ modem with subscribers := modem.subscribers.filter fun other => other.id ≠ id }, [])
  | .close => modem.stop

/-- A request gets the next number. A dispatcher that has stopped answers at once. -/
def submit (modem : Modem) (request : Request) : Modem × List Effect :=
  let ticket := modem.nextTicket
  let modem := { modem with nextTicket := ticket + 1 }
  if modem.isRunning then (modem.leave (.request ticket request), [])
  else (modem, [.answer ticket (.error .closed)])

/-- A mailbox comes into being and the dispatcher is told of it. If the dispatcher has stopped, the
mailbox is closed from the start. -/
def subscribe (modem : Modem) (id : SubscriptionId) (pattern : Pattern) (capacity : Nat) :
    Modem :=
  let mailbox : Mailbox := { id, capacity := max capacity 1, isOpen := modem.isRunning }
  let modem := { modem with mailboxes := modem.mailboxes ++ [mailbox] }
  if modem.isRunning then modem.leave (.subscribe id pattern) else modem

/-- The mailbox closes at once and the dispatcher is told; a second time nothing happens. -/
def unsubscribe (modem : Modem) (id : SubscriptionId) : Modem :=
  if modem.isListening id then
    (modem.updateMailbox id fun mailbox => { mailbox with isOpen := false }).leave
      (.unsubscribe id)
  else modem

/-- The mailbox is thrown away after unsubscribing. -/
def discard (modem : Modem) (id : SubscriptionId) : Modem :=
  let modem := modem.unsubscribe id
  { modem with mailboxes := modem.mailboxes.filter fun mailbox => mailbox.id ≠ id }

/-- The oldest message in a mailbox is taken out. -/
def receive (modem : Modem) (id : SubscriptionId) : Modem × List Effect :=
  match modem.mailbox? id with
  | some { waiting := message :: rest, .. } =>
      (modem.updateMailbox id fun mailbox => { mailbox with waiting := rest },
        [.receive id message])
  | _ => (modem, [])

/-- What an event does. Events of the line, the clock and the channel do nothing any more once the
dispatcher has stopped. -/
def step (line : Line) (now : Instant) (modem : Modem) : Event → Modem × List Effect
  | .submit request => modem.submit request
  | .subscribe id pattern capacity => (modem.subscribe id pattern capacity, [])
  | .unsubscribe id => (modem.unsubscribe id, [])
  | .discard id => (modem.discard id, [])
  | .receive id => modem.receive id
  | .close => (if modem.isRunning then modem.leave .close else modem, [])
  | .take =>
      match modem.controls with
      | [] => (modem, [])
      | control :: rest => handleControl line now { modem with controls := rest } control
  | .arrive packet =>
      if modem.isRunning then proceed line now (modem.handlePacket now packet) else (modem, [])
  | .lineEnd => if modem.isRunning then modem.stop else (modem, [])
  | .tick => if modem.isRunning then proceed line now (modem.expire now) else (modem, [])
  | .abandon =>
      if modem.isRunning && modem.controls.isEmpty then modem.stop else (modem, [])

/-- An event with its time and the state of the line. -/
structure Moment where
  now : Instant
  line : Line
  event : Event

/-- The effects of a series of events, in order, and the state behind them. -/
def run (modem : Modem) : List Moment → Modem × List Effect
  | [] => (modem, [])
  | moment :: rest =>
      let (next, effects) := step moment.line moment.now modem moment.event
      let (final, later) := run next rest
      (final, effects ++ later)

end Powerline.Modem
