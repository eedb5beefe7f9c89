import Powerline.Link.Record

/-!
# Link requests

Reading and writing the link table goes through the payload of an extended message: a zero, the
kind of request, the memory address (high octet first), a count, and the record. A read request
has no record; zeros stand in its place.
-/

namespace Powerline

/-- What a link request asks for or reports. -/
inductive LinkRequestKind where
  | read
  | response
  | write
  deriving DecidableEq, Repr

namespace LinkRequestKind

/-- The number of a kind. -/
def toByte : LinkRequestKind → UInt8
  | read => 0
  | response => 1
  | write => 2

/-- The kind with a given number. -/
def ofByte (byte : UInt8) : Except Error LinkRequestKind :=
  match byte.toNat with
  | 0 => .ok read
  | 1 => .ok response
  | 2 => .ok write
  | _ => .error (.protocol (.unknownLinkRequest byte))

end LinkRequestKind

/-- The payload of a message about the link table. -/
structure LinkRequest where
  kind : LinkRequestKind
  memory : UInt16
  /-- The records to read, where zero means all, or the octets to write. -/
  count : UInt8
  record : Option LinkRecord
  deriving DecidableEq, Repr

namespace LinkRequest

/-- Asks for the whole table. -/
def readAll : LinkRequest := ⟨.read, 0, 0, none⟩

/-- Asks for `count` records from a memory address on. -/
def read (memory : UInt16) (count : UInt8) : LinkRequest := ⟨.read, memory, count, none⟩

/-- Asks to store a record in a slot. -/
def write (slot : Nat) (record : LinkRecord) : LinkRequest :=
  ⟨.write, memoryAddress slot, UInt8.ofNat recordSize, some record⟩

/-- The 13 octets of a request. -/
def toPayload (request : LinkRequest) : Bytes :=
  [0, request.kind.toByte, (request.memory >>> 8).toUInt8, request.memory.toUInt8, request.count]
    ++ match request.record with
      | some record => record.toBytes
      | none => List.replicate recordSize 0

/-- Reads a request; what follows it does not matter. -/
def ofPayload : Bytes → Except Error LinkRequest
  | _ :: kindByte :: memoryHigh :: memoryLow :: count :: rest => do
      let kind ← LinkRequestKind.ofByte kindByte
      let memory := memoryHigh.toUInt16 <<< 8 ||| memoryLow.toUInt16
      match kind with
      | .read => return ⟨kind, memory, count, none⟩
      | .response | .write => return ⟨kind, memory, count, some (← LinkRecord.ofBytes rest)⟩
  | short => .error (.bufferTooShort 5 short.length)

end LinkRequest

end Powerline
