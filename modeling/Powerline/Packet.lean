import Powerline.Message

/-!
# Packets

Host and modem talk in packets. The command byte of a packet fixes the length of its body, with
one exception: an outgoing message is longer if its flags say extended. The modem echoes every
packet of the host and appends a byte that accepts or refuses it.
-/

namespace Powerline

/-- Every packet starts with this byte. -/
def syncByte : UInt8 := 0x02

/-- The modem accepts a packet of the host. -/
def ackByte : UInt8 := 0x06

/-- The modem refuses a packet of the host. -/
def nakByte : UInt8 := 0x15

/-- The command byte of a packet. -/
structure Opcode where
  byte : UInt8
  deriving DecidableEq, Repr

namespace Opcode

/-- A standard message has arrived. -/
def standardReceived : Opcode := ⟨0x50⟩

/-- An extended message has arrived. -/
def extendedReceived : Opcode := ⟨0x51⟩

/-- The host asks the modem to describe itself. -/
def getInfo : Opcode := ⟨0x60⟩

/-- The host sends a message. -/
def sendMessage : Opcode := ⟨0x62⟩

/-- The octets between the command byte and the ack byte, without what an extended message adds;
none for a command byte that names no packet. -/
def bodyLength? (opcode : Opcode) : Option Nat :=
  match opcode.byte.toNat with
  | 0x50 => some 9
  | 0x51 => some 23
  | 0x52 => some 2
  | 0x53 => some 8
  | 0x54 => some 1
  | 0x55 => some 0
  | 0x56 => some 5
  | 0x57 => some 8
  | 0x58 => some 1
  | 0x60 => some 6
  | 0x61 => some 3
  | 0x62 => some 6
  | 0x63 => some 2
  | 0x64 => some 2
  | 0x65 => some 0
  | 0x66 => some 3
  | 0x67 => some 0
  | 0x68 => some 1
  | 0x69 => some 0
  | 0x6a => some 0
  | 0x6b => some 1
  | 0x6c => some 0
  | 0x6d => some 0
  | 0x6e => some 0
  | 0x6f => some 9
  | 0x70 => some 1
  | 0x71 => some 2
  | 0x72 => some 2
  | 0x73 => some 3
  | _ => none

/-- The packet comes from the host; the modem echoes it with an ack byte. -/
def isHost (opcode : Opcode) : Bool :=
  0x60 ≤ opcode.byte && opcode.byte ≤ 0x7f

/-- What the start of a body adds to the body's length: the payload of an extended message that
is sent out. -/
def extraLength (opcode : Opcode) (body : Bytes) : Nat :=
  match body with
  | _ :: _ :: _ :: flags :: _ =>
      if opcode = sendMessage && (Flags.mk flags).isExtended then payloadLength else 0
  | _ => 0

/-- The packet carries a message. -/
def carriesMessage (opcode : Opcode) : Bool :=
  opcode = standardReceived || opcode = extendedReceived || opcode = sendMessage

/-- The command byte in words. -/
def render (opcode : Opcode) : String :=
  showOpcode opcode.byte

end Opcode

/-- A unit of the conversation between host and modem. -/
structure Packet where
  opcode : Opcode
  /-- The octets between the command byte and the ack byte. -/
  payload : Bytes
  /-- How the modem answered a packet of the host; none if this is no echo. -/
  ack : Option UInt8 := none
  deriving DecidableEq, Repr

namespace Packet

/-- The packet that sends a message. The modem fills in the source. -/
def send (message : Message) : Packet :=
  ⟨.sendMessage, message.bodyBytes, none⟩

/-- The modem accepted the packet. -/
def isAck (packet : Packet) : Bool := packet.ack = some ackByte

/-- The modem refused the packet. -/
def isNak (packet : Packet) : Bool := packet.ack = some nakByte

/-- The message that the packet carries. An outgoing one lacks its source. -/
def message (packet : Packet) : Except Error Message :=
  if packet.opcode = .standardReceived || packet.opcode = .extendedReceived then
    Message.ofBytes packet.payload
  else if packet.opcode = .sendMessage then
    Message.ofBytes (Address.zero.toBytes ++ packet.payload)
  else .error (.protocol (.noMessage packet.opcode.byte))

/-- The packet in words. -/
def render (packet : Packet) : String :=
  let payload := packet.payload.map fun byte => toString byte.toNat
  let ack := match packet.ack with
    | some byte => s!"Some({byte.toNat})"
    | none => "None"
  "Packet \x7b command: " ++ packet.opcode.render
    ++ ", payload: [" ++ ", ".intercalate payload ++ "], ack: " ++ ack ++ " \x7d"

end Packet

/-- What the modem says about itself. -/
structure ModemInfo where
  address : Address
  category : UInt8
  subcategory : UInt8
  firmware : UInt8
  deriving DecidableEq, Repr

namespace ModemInfo

/-- Reads the modem's echo of a query about itself. -/
def ofPacket (packet : Packet) : Except Error ModemInfo :=
  if packet.opcode = .getInfo then
    match packet.payload with
    | high :: middle :: low :: category :: subcategory :: firmware :: _ =>
        .ok ⟨⟨high, middle, low⟩, category, subcategory, firmware⟩
    | short => .error (.bufferTooShort 6 short.length)
  else .error (.protocol (.notModemInfo packet.opcode.byte))

end ModemInfo

end Powerline
