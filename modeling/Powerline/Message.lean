import Powerline.Command
import Powerline.Flags
import Powerline.Link.Request

/-!
# Messages

A message travels between devices in nine octets, or in 23 if it is extended: source,
destination, flags, the two octets of the command, and 14 octets of payload. The flags decide the
length, so writing pads or cuts the payload of an extended message and leaves out any other.
-/

namespace Powerline

/-- The octets of a standard message. -/
def standardLength : Nat := 9

/-- The octets of an extended message. -/
def extendedLength : Nat := 23

/-- The octets of an extended payload, the checksum included. -/
def payloadLength : Nat := 14

/-- A payload brought to a given length: cut, or filled up with zeros. -/
def fitPayload (length : Nat) (payload : Bytes) : Bytes :=
  payload.take length ++ List.replicate (length - payload.length) 0

@[simp] theorem length_fitPayload (length : Nat) (payload : Bytes) :
    (fitPayload length payload).length = length := by
  simp only [fitPayload, List.length_append, List.length_take, List.length_replicate]
  omega

theorem fitPayload_of_length_eq {length : Nat} {payload : Bytes}
    (full : payload.length = length) : fitPayload length payload = payload := by
  simp [fitPayload, ← full]

/-- The octet that brings the sum of the command's two octets and the whole payload to zero; it
is computed from the 13 octets before it. -/
def checksum (command : Command) (payload : Bytes) : UInt8 :=
  0 - (payload.take (payloadLength - 1)).foldl (· + ·) (command.cmd1 + command.cmd2)

/-- A message between devices. -/
structure Message where
  source : Address
  destination : Address
  flags : Flags
  command : Command
  /-- The data of an extended message. -/
  payload : Bytes
  deriving DecidableEq, Repr

namespace Message

/-- A message without payload. -/
def standard (source destination : Address) (flags : Flags) (command : Command) : Message :=
  ⟨source, destination, flags, command, []⟩

/-- A message whose payload is brought to its full length. -/
def extended (source destination : Address) (flags : Flags) (command : Command)
    (payload : Bytes) : Message :=
  ⟨source, destination, flags, command, fitPayload payloadLength payload⟩

/-- The flags say that the message is extended. -/
def isExtended (message : Message) : Bool := message.flags.isExtended

/-- A device accepts a direct message. -/
def isAck (message : Message) : Bool := message.flags.isAck

/-- A device refuses a direct message. -/
def isNak (message : Message) : Bool := message.flags.isNak

/-- A device answers a direct message, either way. -/
def isAnswer (message : Message) : Bool := message.isAck || message.isNak

/-- The octets of the message on the wire. -/
def wireLength (message : Message) : Nat :=
  if message.isExtended then extendedLength else standardLength

/-- The message without its source, which the modem fills in. -/
def bodyBytes (message : Message) : Bytes :=
  message.destination.toBytes
    ++ [message.flags.byte, message.command.cmd1, message.command.cmd2]
    ++ if message.isExtended then fitPayload payloadLength message.payload else []

/-- The message on the wire. -/
def toBytes (message : Message) : Bytes :=
  message.source.toBytes ++ message.bodyBytes

/-- Reads a message; what follows it does not matter. -/
def ofBytes (bytes : Bytes) : Except Error Message :=
  match bytes with
  | s1 :: s2 :: s3 :: d1 :: d2 :: d3 :: flagsByte :: cmd1 :: cmd2 :: rest =>
      let flags : Flags := ⟨flagsByte⟩
      if flags.isExtended then
        if rest.length < payloadLength then
          .error (.bufferTooShort extendedLength bytes.length)
        else
          .ok ⟨⟨s1, s2, s3⟩, ⟨d1, d2, d3⟩, flags, .extended cmd1 cmd2, rest.take payloadLength⟩
      else
        .ok ⟨⟨s1, s2, s3⟩, ⟨d1, d2, d3⟩, flags, .standard cmd1 cmd2, []⟩
  | short => .error (.bufferTooShort standardLength short.length)

/-- The message with its checksum in the last octet of the payload. A message that is not
extended has none and stays as it is. -/
def withChecksum (message : Message) : Message :=
  if message.isExtended then
    let data := fitPayload (payloadLength - 1) message.payload
    { message with payload := data ++ [checksum message.command data] }
  else message

/-- The request about the link table that the message carries, if it carries one. -/
def linkRequest? (message : Message) : Option LinkRequest :=
  if message.isExtended && message.command.sameKind .linkDatabase then
    (LinkRequest.ofPayload message.payload).toOption
  else none

/-- One logical message seen on different hops: all agrees but the hops left. An exact copy is
another message. -/
def isRelayOf (left right : Message) : Bool :=
  left.source = right.source && left.destination = right.destination
    && left.command = right.command
    && left.flags.kind = right.flags.kind
    && left.flags.isExtended = right.flags.isExtended
    && left.flags.hopLimit = right.flags.hopLimit
    && left.flags.hopsLeft != right.flags.hopsLeft
    && left.payload = right.payload

/-- The message in words; the payload shows only if the flags say extended. -/
def render (message : Message) : String :=
  message.source.render ++ " -> " ++ message.destination.render ++ " " ++ message.flags.render
    ++ " " ++ message.command.render
    ++ if message.isExtended then
        " [" ++ " ".intercalate (message.payload.map Hex.ofByte) ++ "]"
      else ""

@[simp] theorem length_toBytes (message : Message) :
    message.toBytes.length = message.wireLength := by
  unfold toBytes bodyBytes wireLength
  split <;> simp [standardLength, extendedLength, payloadLength]

theorem isRelayOf_comm (left right : Message) : left.isRelayOf right = right.isRelayOf left := by
  simp only [isRelayOf, eq_comm, bne_comm]

end Message

end Powerline
