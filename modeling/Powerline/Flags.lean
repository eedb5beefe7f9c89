import Powerline.Text.Hex

/-!
# Message flags

The flags octet of a message holds, from its top: three bits for the kind of message, one for an
extended message, two for the hops it has left and two for the hops it started with.
-/

namespace Powerline

/-- A message crosses the network in at most this many hops. -/
def maxHops : UInt8 := 3

/-- The eight kinds of message. -/
inductive MessageKind where
  | direct
  | directAck
  | allLinkCleanup
  | cleanupAck
  | broadcast
  | directNak
  | allLinkBroadcast
  | cleanupNak
  deriving DecidableEq, Repr

namespace MessageKind

/-- The number of a kind. -/
def toBits : MessageKind → UInt8
  | direct => 0
  | directAck => 1
  | allLinkCleanup => 2
  | cleanupAck => 3
  | broadcast => 4
  | directNak => 5
  | allLinkBroadcast => 6
  | cleanupNak => 7

/-- The kind with the number in the low three bits. -/
def ofBits (bits : UInt8) : MessageKind :=
  match (bits &&& 7).toNat with
  | 0 => direct
  | 1 => directAck
  | 2 => allLinkCleanup
  | 3 => cleanupAck
  | 4 => broadcast
  | 5 => directNak
  | 6 => allLinkBroadcast
  | _ => cleanupNak

/-- The name of a kind. -/
def render : MessageKind → String
  | direct => "Direct"
  | directAck => "DirectAck"
  | allLinkCleanup => "AllLinkCleanup"
  | cleanupAck => "CleanupAck"
  | broadcast => "Broadcast"
  | directNak => "DirectNak"
  | allLinkBroadcast => "AllLinkBroadcast"
  | cleanupNak => "CleanupNak"

/-- All kinds, in the order of their numbers. -/
def all : List MessageKind :=
  [direct, directAck, allLinkCleanup, cleanupAck, broadcast, directNak, allLinkBroadcast,
    cleanupNak]

@[simp] theorem ofBits_toBits (kind : MessageKind) : ofBits kind.toBits = kind := by
  cases kind <;> rfl

end MessageKind

/-- The flags octet of a message. -/
structure Flags where
  byte : UInt8
  deriving DecidableEq, Repr, Inhabited

namespace Flags

/-- Flags from their parts. Neither hop count exceeds `maxHops`, nor the hops left the hops
allowed. -/
def make (kind : MessageKind) (extended : Bool) (hopsLeft hopLimit : UInt8) : Flags :=
  let limit := min hopLimit maxHops
  let left := min hopsLeft limit
  ⟨kind.toBits <<< 5 ||| extended.toUInt8 <<< 4 ||| left <<< 2 ||| limit⟩

/-- Flags of a direct message that has all its hops before it. -/
def direct (extended : Bool) (hops : UInt8) : Flags :=
  make .direct extended hops hops

/-- The kind of message. -/
def kind (flags : Flags) : MessageKind :=
  .ofBits (flags.byte >>> 5)

/-- The message is extended. -/
def isExtended (flags : Flags) : Bool :=
  flags.byte &&& 0x10 != 0

/-- The hops a message has left. -/
def hopsLeft (flags : Flags) : UInt8 :=
  (flags.byte >>> 2) &&& 3

/-- The hops a message started with. -/
def hopLimit (flags : Flags) : UInt8 :=
  flags.byte &&& 3

/-- A device accepts a direct message. -/
def isAck (flags : Flags) : Bool :=
  flags.kind = .directAck

/-- A device refuses a direct message. -/
def isNak (flags : Flags) : Bool :=
  flags.kind = .directNak

/-- A message to one device. -/
def isDirect (flags : Flags) : Bool :=
  flags.kind = .direct

/-- A message to every device. -/
def isBroadcast (flags : Flags) : Bool :=
  flags.kind = .broadcast

/-- A broadcast or cleanup to a group, or the answer to a cleanup. -/
def isAllLink (flags : Flags) : Bool :=
  match flags.kind with
  | .allLinkBroadcast | .allLinkCleanup | .cleanupAck | .cleanupNak => true
  | _ => false

/-- The same flags with another count of hops left. -/
def withHopsLeft (flags : Flags) (hopsLeft : UInt8) : Flags :=
  make flags.kind flags.isExtended hopsLeft flags.hopLimit

/-- The flags in words: kind, length and hops. -/
def render (flags : Flags) : String :=
  flags.kind.render ++ (if flags.isExtended then " ext " else " std ")
    ++ s!"{flags.hopsLeft.toNat}:{flags.hopLimit.toNat}"

end Flags

end Powerline
