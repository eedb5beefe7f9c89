import Powerline.Address

/-!
# Link records

A device keeps its links to other devices in a table of records of eight octets. The table lies
in memory from the top downwards: the record in slot `i` stands at `memoryAddress i`. Its end is
marked by a record with the last-record mark.

Two records stand for the same link when their identities agree; the application data and the
other flags do not matter for that.
-/

namespace Powerline

/-- The octets of one record, on the wire and in memory. -/
def recordSize : Nat := 8

/-- The memory address of the first record. -/
def baseAddress : UInt16 := 0x0fff

/-- The slots between the first record and the bottom of memory. -/
def maxRecords : Nat := (baseAddress.toNat + 1) / recordSize

/-- The memory address of a slot, counted downwards modulo the size of an address. -/
def memoryAddress (slot : Nat) : UInt16 :=
  baseAddress - UInt16.ofNat (slot * recordSize)

/-- The flags octet of a record: bit 7 is set for a record in use, bit 6 for the controller's
side of a link, and bit 1 is clear on the last record. -/
structure RecordFlags where
  byte : UInt8
  deriving DecidableEq, Repr, Inhabited

namespace RecordFlags

/-- A controller's record in use. -/
def controller : RecordFlags := ⟨0xe2⟩

/-- A responder's record in use. -/
def responder : RecordFlags := ⟨0xa2⟩

/-- A deleted record inside the table. -/
def deleted : RecordFlags := ⟨0x02⟩

/-- The record stands for a link. -/
def inUse (flags : RecordFlags) : Bool :=
  flags.byte &&& 0x80 != 0

/-- The slot is free. -/
def isAvailable (flags : RecordFlags) : Bool :=
  !flags.inUse

/-- The device controls the other one. -/
def isController (flags : RecordFlags) : Bool :=
  flags.byte &&& 0x40 != 0

/-- The device responds to the other one. -/
def isResponder (flags : RecordFlags) : Bool :=
  !flags.isController

/-- The table ends before this record. -/
def isLast (flags : RecordFlags) : Bool :=
  flags.byte &&& 0x02 == 0

/-- The same flags, in use. -/
def use (flags : RecordFlags) : RecordFlags := ⟨flags.byte ||| 0x80⟩

/-- The same flags, no longer in use. -/
def release (flags : RecordFlags) : RecordFlags := ⟨flags.byte &&& 0x7f⟩

/-- The same flags for the controller's side. -/
def asController (flags : RecordFlags) : RecordFlags := ⟨flags.byte ||| 0x40⟩

/-- The same flags for the responder's side. -/
def asResponder (flags : RecordFlags) : RecordFlags := ⟨flags.byte &&& 0xbf⟩

/-- The same flags with the last-record mark. -/
def asLast (flags : RecordFlags) : RecordFlags := ⟨flags.byte &&& 0xfd⟩

/-- The same flags without the last-record mark. -/
def notLast (flags : RecordFlags) : RecordFlags := ⟨flags.byte ||| 0x02⟩

/-- The flags in words: usage, role and the octet. -/
def render (flags : RecordFlags) : String :=
  (if flags.inUse then "A" else "U") ++ (if flags.isController then "C" else "R")
    ++ " 0x" ++ Hex.ofByte flags.byte

end RecordFlags

/-- What makes two records stand for the same link. -/
structure LinkId where
  inUse : Bool
  controller : Bool
  group : UInt8
  address : Address
  deriving DecidableEq, Repr

/-- A record of a device's link table. -/
structure LinkRecord where
  flags : RecordFlags
  group : UInt8
  /-- The device at the other end. -/
  address : Address
  data1 : UInt8
  data2 : UInt8
  data3 : UInt8
  deriving DecidableEq, Repr, Inhabited

namespace LinkRecord

/-- A record in use for the controller's side of a link. -/
def controller (group : UInt8) (address : Address) (data1 data2 data3 : UInt8) : LinkRecord :=
  ⟨.controller, group, address, data1, data2, data3⟩

/-- A record in use for the responder's side of a link. -/
def responder (group : UInt8) (address : Address) (data1 data2 data3 : UInt8) : LinkRecord :=
  ⟨.responder, group, address, data1, data2, data3⟩

/-- The record of zeros that ends a table. -/
def terminator : LinkRecord := ⟨⟨0⟩, 0, .zero, 0, 0, 0⟩

/-- The identity of a record. -/
def id (record : LinkRecord) : LinkId where
  inUse := record.flags.inUse
  controller := record.flags.isController
  group := record.group
  address := record.address

/-- The two records stand for the same link. -/
def sameLink (left right : LinkRecord) : Bool :=
  left.id = right.id

/-- The same record without the last-record mark. -/
def notLast (record : LinkRecord) : LinkRecord :=
  { record with flags := record.flags.notLast }

/-- The record that a deleted link leaves behind: free and not the last. -/
def tombstone (record : LinkRecord) : LinkRecord :=
  { record with flags := record.flags.release.notLast }

/-- The record on the wire and in memory. -/
def toBytes (record : LinkRecord) : Bytes :=
  [record.flags.byte, record.group] ++ record.address.toBytes
    ++ [record.data1, record.data2, record.data3]

/-- The record in the first eight octets; the rest does not matter. -/
def ofBytes : Bytes → Except Error LinkRecord
  | flags :: group :: high :: middle :: low :: data1 :: data2 :: data3 :: _ =>
      .ok ⟨⟨flags⟩, group, ⟨high, middle, low⟩, data1, data2, data3⟩
  | short => .error (.bufferTooShort recordSize short.length)

@[simp] theorem length_toBytes (record : LinkRecord) : record.toBytes.length = recordSize := rfl

@[simp] theorem ofBytes_toBytes_append (record : LinkRecord) (rest : Bytes) :
    ofBytes (record.toBytes ++ rest) = .ok record := rfl

end LinkRecord

end Powerline
