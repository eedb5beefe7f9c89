import Powerline.Proofs.Dialogue
import Powerline.Proofs.Frame.Echo
import Powerline.Proofs.Link.Wire

/-!
# What a connection sends

The payload of a command takes a way of several stations to the modem: it is brought to its full
length, a checksum may replace its last octet, the source is left out, and a packet is put around
the rest. What the packet holds in the end is the payload that was given, and the checksum is that
of the octets that go out (`Connection.Carries`).
-/

namespace Powerline

theorem getElem?_fitPayload {length index : Nat} (payload : Bytes) (inside : index < length) :
    (fitPayload length payload)[index]? = some (payload[index]?.getD 0) := by
  unfold fitPayload
  rcases Nat.lt_or_ge index payload.length with given | missing
  · have kept : index < (payload.take length).length := by
      rw [List.length_take]
      omega
    rw [List.getElem?_append_left kept, List.getElem?_take_of_lt inside,
      List.getElem?_eq_getElem given]
    rfl
  · have cut : payload.take length = payload := List.take_of_length_le (by omega)
    rw [cut, List.getElem?_append_right missing, List.getElem?_eq_none missing,
      List.getElem?_replicate_of_lt (by omega)]
    rfl

/-- The octets added up as numbers, onto a number to start with. -/
def addOctets (start : Nat) (octets : Bytes) : Nat :=
  octets.foldl (fun total octet => total + octet.toNat) start

/-- Added up as octets they come around at 256. -/
theorem addOctets_mod (octets : Bytes) {total : Nat} {start : UInt8}
    (same : total % 256 = start.toNat) :
    addOctets total octets % 256 = (octets.foldl (· + ·) start).toNat := by
  induction octets generalizing total start with
  | nil => exact same
  | cons octet rest ih =>
      apply ih
      simp only [UInt8.toNat_add]
      omega

namespace Message

/-- The octets that a checksum is about, added up: those of the command and the payload. -/
def octetSum (message : Message) : Nat :=
  addOctets (message.command.cmd1.toNat + message.command.cmd2.toNat) message.payload

/-- The checksum brings the sum to zero. -/
theorem octetSum_withChecksum {message : Message} (extended : message.isExtended = true) :
    message.withChecksum.octetSum % 256 = 0 := by
  have data : (fitPayload (payloadLength - 1) message.payload).take (payloadLength - 1)
      = fitPayload (payloadLength - 1) message.payload :=
    List.take_of_length_le (Nat.le_of_eq (length_fitPayload _ _))
  have start : (message.command.cmd1.toNat + message.command.cmd2.toNat) % 256
      = (message.command.cmd1 + message.command.cmd2).toNat :=
    (UInt8.toNat_add _ _).symm
  simp only [withChecksum, extended, ↓reduceIte, octetSum, checksum, data]
  generalize fitPayload (payloadLength - 1) message.payload = octets
  have before := addOctets_mod octets start
  simp only [addOctets, List.foldl_append, List.foldl_cons, List.foldl_nil, UInt8.toNat_sub,
    UInt8.reduceToNat] at before ⊢
  rw [← before]
  omega

theorem length_payload_withChecksum {message : Message} (extended : message.isExtended = true) :
    message.withChecksum.payload.length = payloadLength := by
  simp [withChecksum, extended, payloadLength]

end Message

namespace Connection

/-- The message takes this command and this payload to the device at the end of the connection. The
payload is cut or filled up with zeros, and its last octet is the given one or a checksum. -/
structure Carries (connection : Connection) (command : Command) (payload : Bytes)
    (sent : Message) : Prop where
  destination : sent.destination = connection.address
  extended : sent.isExtended = true
  asks : sent.command = .extended command.cmd1 command.cmd2
  full : sent.payload.length = 14
  data : ∀ index < 13, sent.payload[index]? = some (payload[index]?.getD 0)
  last : if connection.engine = .i2cs then sent.octetSum % 256 = 0
    else sent.payload[13]? = some (payload[13]?.getD 0)

variable {connection : Connection} {command : Command} {payload : Bytes} {sent : Message}

/-- What is behind the full length of a payload does not matter. -/
theorem Carries.of_fitPayload
    (carries : connection.Carries command (fitPayload payloadLength payload) sent) :
    connection.Carries command payload sent := by
  have same (index : Nat) (inside : index < payloadLength) :
      (fitPayload payloadLength payload)[index]?.getD 0 = payload[index]?.getD 0 := by
    rw [getElem?_fitPayload payload inside, Option.getD_some]
  refine ⟨carries.destination, carries.extended, carries.asks, carries.full, ?_, ?_⟩
  · intro index inside
    rw [carries.data index inside, same index (Nat.lt_succ_of_lt inside)]
  · have last := carries.last
    rw [same 13 (by decide)] at last
    exact last

/-- A payload that leaves room for nothing but a checksum stands at the front. -/
theorem Carries.payload_eq_append (carries : connection.Carries command payload sent)
    (length : payload.length = 13) : sent.payload = payload ++ sent.payload.drop 13 := by
  have front : sent.payload.take 13 = payload := by
    apply List.ext_getElem?
    intro index
    rcases Nat.lt_or_ge index 13 with inside | behind
    · rw [List.getElem?_take_of_lt inside, carries.data index inside,
        List.getElem?_eq_getElem (by omega), Option.getD_some]
    · rw [List.getElem?_eq_none (by rw [List.length_take]; omega),
        List.getElem?_eq_none (by omega)]
  have parts := (List.take_append_drop 13 sent.payload).symm
  rw [front] at parts
  exact parts

/-- The device reads the link request that was meant. -/
theorem Carries.linkRequest?_eq {request : LinkRequest}
    (carries : connection.Carries .linkDatabase request.toPayload sent)
    (complete : request.IsComplete) : sent.linkRequest? = some request := by
  have kind : sent.command.sameKind .linkDatabase = true := by
    rw [carries.asks]
    rfl
  have payload := carries.payload_eq_append request.length_toPayload
  simp only [Message.linkRequest?, carries.extended, kind, Bool.and_self, ↓reduceIte]
  rw [payload, LinkRequest.ofPayload_append complete]
  rfl

/-- The message that goes out has the command and the payload of the one that was given. -/
theorem carries_addressed (connection : Connection) {message : Message}
    (extended : message.isExtended = true) :
    connection.Carries message.command message.payload
      { connection.addressed message with source := .zero }.normalized := by
  have flags : message.flags.isExtended = true := extended
  cases checked : connection.engine.requiresChecksum with
  | true =>
      have engine : connection.engine = .i2cs := by
        simpa [Engine.requiresChecksum] using checked
      have sum := Message.octetSum_withChecksum extended
      have length := Message.length_payload_withChecksum extended
      simp only [addressed, checked, ↓reduceIte, Message.withChecksum, Message.isExtended, flags,
        Message.octetSum, Message.normalized] at sum length ⊢
      rw [fitPayload_of_length_eq length]
      refine ⟨rfl, flags, rfl, length, ?_, ?_⟩
      · intro index inside
        have data : index < (fitPayload (payloadLength - 1) message.payload).length := by
          rw [length_fitPayload]
          exact inside
        rw [List.getElem?_append_left data]
        exact getElem?_fitPayload message.payload inside
      · rw [if_pos engine]
        exact sum
  | false =>
      have engine : connection.engine ≠ .i2cs := by
        simpa [Engine.requiresChecksum] using checked
      simp only [addressed, checked, Bool.false_eq_true, ↓reduceIte, Message.isExtended, flags,
        Message.normalized]
      refine ⟨rfl, flags, rfl, length_fitPayload _ _, ?_, ?_⟩
      · intro index inside
        exact getElem?_fitPayload message.payload (Nat.lt_succ_of_lt inside)
      · rw [if_neg engine]
        exact getElem?_fitPayload message.payload (by decide)

/-- A command of extended messages goes out with its payload. -/
theorem carries_direct (connection : Connection) {command : Command} (payload : Bytes)
    (extended : command.isExtended = true) :
    connection.Carries command payload
      { connection.addressed (connection.direct command payload) with
        source := .zero }.normalized := by
  have marked : (connection.direct command payload).isExtended = true := by
    simp only [direct, extended, ↓reduceIte]
    exact isExtended_make _ _ _ _
  have carries := carries_addressed connection marked
  simp only [direct, extended, ↓reduceIte] at carries ⊢
  exact carries.of_fitPayload

end Connection

/-- The packet that an exchange sends to the modem. -/
def Exchange.packet? : Exchange → Option Packet
  | send message _ => some (Request.message message).toPacket
  | command packet _ => some (Request.packet packet).toPacket
  | _ => none

/-- The packets that go out to the modem, in order. -/
def Outcome.packets {σ α : Type} (outcome : Outcome σ α) : List Packet :=
  outcome.exchanges.filterMap Exchange.packet?

namespace Connection

variable {σ α : Type}

/-- One packet goes out, and its message takes the command and the payload to the device. -/
def SendsOnce (connection : Connection) (command : Command) (payload : Bytes)
    (outcome : Outcome σ α) : Prop :=
  ∃ packet sent, outcome.packets = [packet] ∧ packet.message = .ok sent ∧
    connection.Carries command payload sent

variable (connection : Connection) (world : World) (past : List Exchange) (memory : σ)

theorem sendsOnce_write {message : Message} (extended : message.isExtended = true) :
    connection.SendsOnce message.command message.payload
      ((connection.write message).carryOut world past memory) :=
  ⟨_, _, rfl, Packet.message_send _, carries_addressed connection extended⟩

variable {command : Command} (payload : Bytes)

theorem sendsOnce_send (extended : command.isExtended = true) :
    connection.SendsOnce command payload
      ((connection.send command payload).carryOut world past memory) := by
  rw [carryOut_send]
  exact ⟨_, _, rfl, Packet.message_send _, carries_direct connection payload extended⟩

/-- Neither the subscription nor waiting for the response sends anything. -/
theorem sendsOnce_request (extended : command.isExtended = true) (response : Pattern) :
    connection.SendsOnce command payload
      ((connection.request command payload response).carryOut world past memory) := by
  simp only [request, Dialogue.carryOut_withSubscription, Dialogue.carryOut_bind, carryOut_send]
  generalize world.answer _ _ = answer
  refine ⟨_, _, ?_, Packet.message_send _, carries_direct connection payload extended⟩
  cases connection.verdict answer with
  | ok ack => rfl
  | error error => rfl

end Connection

end Powerline
