import Powerline.Pattern
import Powerline.RelayFilter
import Powerline.Packet

/-!
# The shared modem

All who share a modem hand their requests to one dispatcher, which talks to the modem about one
request at a time. The requests wait in the order in which the dispatcher took them in. Messages
that answer no request go to the subscribers whose pattern they satisfy.

Callers leave their controls in a channel; the dispatcher takes them from it one by one, in order.
What subscribers receive waits in mailboxes of limited size.
-/

namespace Powerline

/-- What a caller asks of the modem. -/
inductive Request where
  /-- A packet for the modem itself, answered by its echo. -/
  | packet (packet : Packet)
  /-- A message for a device, answered by the device. -/
  | message (message : Message)
  deriving DecidableEq, Repr

namespace Request

/-- The packet that transmits a request. -/
def toPacket : Request → Packet
  | packet command => command
  | message sent => Packet.send sent

/-- A device's answer belongs to the request: it comes from the destination and repeats the first
octet of the command. The answer to a status request has a counter in that place. -/
def accepts (request : Request) (answer : Message) : Bool :=
  match request with
  | packet _ => false
  | message sent =>
      answer.source = sent.destination
        && (sent.command.sameKind .statusRequest || answer.command.cmd1 = sent.command.cmd1)

end Request

/-- What a request brings when it succeeds. -/
inductive Answer where
  | echo (packet : Packet)
  | reply (message : Message)
  deriving DecidableEq, Repr

/-- Requests are numbered in the order in which callers submit them. -/
abbrev Ticket := Nat

/-- The number under which a caller subscribes. -/
abbrev SubscriptionId := Nat

/-- What callers leave in the channel. -/
inductive Control where
  | request (ticket : Ticket) (request : Request)
  | subscribe (id : SubscriptionId) (pattern : Pattern)
  | unsubscribe (id : SubscriptionId)
  | close

/-- What the request in flight waits for. -/
inductive Stage where
  | awaitEcho
  | awaitReply
  deriving DecidableEq, Repr

/-- The request that the dispatcher is talking to the modem about. -/
structure InFlight where
  ticket : Ticket
  request : Request
  stage : Stage
  deadline : Instant
  deriving DecidableEq, Repr

/-- The packet is the modem's echo of the request: it repeats the command byte and starts with
what was sent. The answer to a query follows behind that. -/
def InFlight.isEchoedBy (inFlight : InFlight) (packet : Packet) : Bool :=
  let sent := inFlight.request.toPacket
  inFlight.stage = .awaitEcho && sent.opcode = packet.opcode
    && sent.payload.isPrefixOf packet.payload

/-- The message is the device's answer to the request. -/
def InFlight.isAnsweredBy (inFlight : InFlight) (message : Message) : Bool :=
  inFlight.stage = .awaitReply && inFlight.request.accepts message

/-- A subscriber as the dispatcher knows it. -/
structure Subscriber where
  id : SubscriptionId
  pattern : Pattern

/-- The messages that wait for a subscriber. -/
structure Mailbox where
  id : SubscriptionId
  capacity : Nat
  /-- The oldest message first. -/
  waiting : List Message := []
  /-- More messages may come. -/
  isOpen : Bool := true
  deriving Repr

/-- No mailbox has room for more messages than this. -/
def Mailbox.maxCapacity : Nat := Nat.pow 2 61 - 1

/-- There is room for another message. -/
def Mailbox.hasRoom (mailbox : Mailbox) : Bool :=
  mailbox.waiting.length < mailbox.capacity

/-- The mailbox with another message in it, unless it is full. -/
def Mailbox.post (mailbox : Mailbox) (message : Message) : Mailbox :=
  if mailbox.hasRoom then { mailbox with waiting := mailbox.waiting ++ [message] } else mailbox

/-- The state of the dispatcher, of its channel and of all mailboxes. -/
structure Modem where
  /-- How long a request waits for its echo, and then again for the device's answer. -/
  ackTimeout : Duration
  /-- Recognises relayed copies; without it all messages count. -/
  filter : Option RelayFilter := none
  /-- The controls that the dispatcher has not taken yet, the oldest first. -/
  controls : List Control := []
  /-- The requests that were taken but not transmitted yet, the oldest first. -/
  queue : List (Ticket × Request) := []
  inFlight : Option InFlight := none
  subscribers : List Subscriber := []
  mailboxes : List Mailbox := []
  /-- The number of the next request. -/
  nextTicket : Ticket := 0
  /-- The dispatcher works; once it has stopped it never does again. -/
  isRunning : Bool := true

namespace Modem

/-- When the wait of the request in flight ends. -/
def deadline? (modem : Modem) : Option Instant :=
  modem.inFlight.map InFlight.deadline

/-- The mailbox of a subscription. -/
def mailbox? (modem : Modem) (id : SubscriptionId) : Option Mailbox :=
  modem.mailboxes.find? fun mailbox => mailbox.id = id

/-- The mailbox exists and may get more messages. -/
def isListening (modem : Modem) (id : SubscriptionId) : Bool :=
  modem.mailboxes.any fun mailbox => mailbox.id = id && mailbox.isOpen

/-- The same state with one mailbox changed. -/
def updateMailbox (modem : Modem) (id : SubscriptionId) (change : Mailbox → Mailbox) : Modem :=
  { modem with
    mailboxes := modem.mailboxes.map fun mailbox =>
      if mailbox.id = id then change mailbox else mailbox }

end Modem

end Powerline
