import Powerline.Error

/-!
# Device commands

A command is two octets on the wire. The same pair means different things in a standard and in an
extended message, so a command also carries the family it belongs to. The second octet of the
pair often is a parameter (a level, a group); the family and the first octet are the command's
kind.
-/

namespace Powerline

/-- What a message asks of a device or reports from it. -/
structure Command where
  /-- Zero for the commands of standard messages, otherwise for those of extended ones. -/
  family : UInt8
  cmd1 : UInt8
  cmd2 : UInt8
  deriving DecidableEq, Repr, Inhabited

namespace Command

/-- A command of a standard message. -/
def standard (cmd1 cmd2 : UInt8) : Command := ⟨0, cmd1, cmd2⟩

/-- A command of an extended message. -/
def extended (cmd1 cmd2 : UInt8) : Command := ⟨1, cmd1, cmd2⟩

/-- The same kind of command with another parameter. -/
def withParameter (command : Command) (value : UInt8) : Command :=
  { command with cmd2 := value }

/-- The command belongs to extended messages. -/
def isExtended (command : Command) : Bool :=
  command.family != 0

/-- Family and first octet agree; the parameter does not matter. -/
def sameKind (left right : Command) : Bool :=
  left.family = right.family && left.cmd1 = right.cmd1

/-- The order of the three octets, the family first. -/
def compare (left right : Command) : Ordering :=
  (Ord.compare left.family right.family).then <|
    (Ord.compare left.cmd1 right.cmd1).then (Ord.compare left.cmd2 right.cmd2)

/-- The numeric form of a command. -/
def render (command : Command) : String :=
  Hex.ofByte command.family ++ "." ++ Hex.ofByte command.cmd1 ++ "." ++ Hex.ofByte command.cmd2

@[simp] theorem sameKind_iff (left right : Command) :
    left.sameKind right = true ↔ left.family = right.family ∧ left.cmd1 = right.cmd1 := by
  simp [sameKind]

/-! ### Commands with a meaning of their own -/

/-- A set button was pressed on a responder. -/
def setButtonResponder : Command := standard 0x01 0x00
/-- A set button was pressed on a controller. -/
def setButtonController : Command := standard 0x02 0x00
/-- A controller reports that its group answered. -/
def allLinkSuccess : Command := standard 0x06 0x00
/-- Leave linking mode. -/
def exitLinking : Command := standard 0x08 0x00
/-- Enter linking mode for the group in the parameter. -/
def enterLinking : Command := standard 0x09 0x00
/-- Enter unlinking mode for the group in the parameter. -/
def enterUnlinking : Command := standard 0x0a 0x00
/-- Ask for the engine version; the ack's parameter answers. -/
def getEngine : Command := standard 0x0d 0x00
/-- Ask for an ack and nothing else. -/
def ping : Command := standard 0x0f 0x00
/-- Ask for the product data. -/
def idRequest : Command := standard 0x10 0x00
/-- Turn on to the level in the parameter. -/
def lightOn : Command := standard 0x11 0xff
/-- Turn on without a ramp. -/
def lightOnFast : Command := standard 0x12 0xff
/-- Turn off. -/
def lightOff : Command := standard 0x13 0x00
/-- Turn off without a ramp. -/
def lightOffFast : Command := standard 0x14 0x00
/-- One step brighter. -/
def brighten : Command := standard 0x15 0x00
/-- One step dimmer. -/
def dim : Command := standard 0x16 0x00
/-- Ask for the level; the ack carries it in the parameter and a change counter in `cmd1`. -/
def statusRequest : Command := standard 0x19 0x00
/-- Read or write extended properties. -/
def extendedGetSet : Command := extended 0x2e 0x00
/-- Read or write the link database. -/
def linkDatabase : Command := extended 0x2f 0x00
/-- Enter linking mode, in the form that devices with checksums take. -/
def enterLinkingExtended : Command := extended 0x09 0x00
/-- Enter unlinking mode, in the form that devices with checksums take. -/
def enterUnlinkingExtended : Command := extended 0x0a 0x00

end Command

end Powerline
