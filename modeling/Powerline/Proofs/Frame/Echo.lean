import Powerline.Modem.Step
import Powerline.Proofs.Frame.Splitting
import Powerline.Proofs.Message.Codec

/-!
# Echoes of sent messages

The modem repeats what the host has sent and puts an ack byte behind it. How long a message is, is
found out twice: writing it goes by its flags, and framing its echo by an octet at a fixed place in
the body. Both come to the same length, whatever the flags and the payload are, so the echo of
every message is framed as a whole and recognised.
-/

namespace Powerline

namespace Packet

/-- The packet as the modem repeats it, with the byte that accepts or refuses it. -/
def echo (packet : Packet) (ack : UInt8) : Packet :=
  { packet with ack := some ack }

theorem encode_echo_append (message : Message) (ack : UInt8) (rest : Bytes) :
    Frame.encode (send message) ++ ack :: rest
      = Frame.encode ((send message).echo ack) ++ rest := by
  simp [Frame.encode, send, echo]

/-- The octet that decides the length of a body that is sent has the flags of the message. -/
theorem sendsExtended_send (message : Message) :
    (send message).sendsExtended = message.isExtended := by
  simp [sendsExtended, send, Message.bodyBytes, Address.toBytes, Message.isExtended]

theorem length_bodyBytes (message : Message) :
    message.bodyBytes.length = 6 + if message.isExtended then payloadLength else 0 := by
  unfold Message.bodyBytes
  split <;> simp [payloadLength]

/-- The body of a sent message is as long as its own flags octet prescribes. -/
theorem isWellFormed_echo (message : Message) (ack : UInt8) :
    ((send message).echo ack).IsWellFormed where
  length := by
    have extended : ((send message).echo ack).sendsExtended = message.isExtended :=
      sendsExtended_send message
    have known : ((send message).echo ack).opcode.bodyLength? = some 6 := rfl
    have body : ((send message).echo ack).payload = message.bodyBytes := rfl
    rw [prescribedLength?, known, extended, body, length_bodyBytes]
    rfl
  ack := rfl

/-- A sent message is read without its source. -/
theorem message_send (message : Message) :
    (send message).message = .ok { message with source := .zero }.normalized := by
  have read := Message.ofBytes_toBytes_append { message with source := .zero } []
  rw [List.append_nil] at read
  exact read

end Packet

theorem InFlight.isEchoedBy_echo (ticket : Ticket) (request : Request) (deadline : Instant)
    (ack : UInt8) :
    (InFlight.mk ticket request .awaitEcho deadline).isEchoedBy (request.toPacket.echo ack)
      = true := by
  simp [isEchoedBy, Packet.echo]

namespace Modem

/-- Behind the echo of its request the dispatcher waits for no echo any more: the request is over,
or it waits for the device. -/
theorem stage_of_handlePacket_echo {modem : Modem} {now deadline : Instant} {ticket : Ticket}
    {message : Message} {ack : UInt8} {inFlight : InFlight}
    (waits : modem.inFlight = some ⟨ticket, .message message, .awaitEcho, deadline⟩)
    (next : (modem.handlePacket now ((Packet.send message).echo ack)).1.inFlight
      = some inFlight) : inFlight.stage = .awaitReply := by
  have echoed := InFlight.isEchoedBy_echo ticket (.message message) deadline ack
  have host : ((Packet.send message).echo ack).opcode.isHost = true := rfl
  simp only [Request.toPacket] at echoed
  simp only [handlePacket, host, handleEcho, waits, echoed, Bool.not_true, Bool.false_eq_true,
    ↓reduceIte] at next
  split at next
  · contradiction
  · split at next
    · rw [← Option.some.inj next]
    · contradiction

/-- Whatever a message holds, the octets that send it, followed by an ack byte and any more, are
framed as one packet, which repeats the command byte and the body and has the ack byte, and the rest
is left. The request that waits for the echo takes it for its own, and the dispatcher waits for it
no longer. The echo is read as the message without its source, with command and payload as the
flags describe them. -/
theorem echo_recognised (message : Message) (ack : UInt8) (rest : Bytes) :
    let sent := (Request.message message).toPacket
    let echo : Packet := ⟨sent.opcode, sent.payload, some ack⟩
    Frame.scan (Frame.encode sent ++ ack :: rest) = .found (.ok echo) rest ∧
      (∀ ticket deadline,
        (InFlight.mk ticket (.message message) .awaitEcho deadline).isEchoedBy echo = true) ∧
      (∀ (modem : Modem) now ticket deadline inFlight,
        modem.inFlight = some ⟨ticket, .message message, .awaitEcho, deadline⟩ →
        (modem.handlePacket now echo).1.inFlight = some inFlight →
          inFlight.stage = .awaitReply) ∧
      echo.message = .ok
        { source := .zero
          destination := message.destination
          flags := message.flags
          command := if message.isExtended then .extended message.command.cmd1 message.command.cmd2
            else .standard message.command.cmd1 message.command.cmd2
          payload := if message.isExtended then fitPayload payloadLength message.payload
            else [] } := by
  intro sent echo
  refine ⟨?_, ?_, ?_, ?_⟩
  · change Frame.scan (Frame.encode (Packet.send message) ++ ack :: rest) = _
    rw [Packet.encode_echo_append]
    exact Frame.scan_encode (Packet.isWellFormed_echo message ack) rest
  · intro ticket deadline
    exact InFlight.isEchoedBy_echo ticket (.message message) deadline ack
  · intro modem now ticket deadline inFlight waits next
    exact stage_of_handlePacket_echo waits next
  · exact Packet.message_send message

end Modem

end Powerline
