import Powerline.Error

/-!
# Engine versions

The engine is the generation of a device's firmware. It decides whether extended messages carry a
checksum, and what the code in a refusal means.
-/

namespace Powerline

/-- The generation of a device's firmware. -/
inductive Engine where
  | i1
  | i2
  /-- Extended messages carry a checksum, and most commands need a link to the modem. -/
  | i2cs
  deriving DecidableEq, Repr

namespace Engine

/-- The parameter of the answer to an engine query. -/
def ofByte (byte : UInt8) : Except Error Engine :=
  match byte.toNat with
  | 0 => .ok i1
  | 1 => .ok i2
  | 2 => .ok i2cs
  | _ => .error (.protocol (.unknownEngine byte))

/-- Extended messages to the device need a checksum. -/
def requiresChecksum (engine : Engine) : Bool :=
  engine = i2cs

/-- The name of an engine. -/
def render : Engine → String
  | i1 => "I1"
  | i2 => "I2"
  | i2cs => "I2Cs"

/-- The engine with a given name. -/
def ofName? (name : String) : Option Engine :=
  [i1, i2, i2cs].find? fun engine => engine.render = name

/-- The reason that a code stands for in a refusal by a device with this engine. -/
def nakReason? (engine : Engine) (code : UInt8) : Option NakReason :=
  match engine, code.toNat with
  | i2cs, 0xfb => some .illegalValue
  | i2cs, 0xfc => some .preNak
  | i2cs, 0xfd => some .incorrectChecksum
  | i1, 0xfd | i2, 0xfd => some .unknownCommand
  | _, 0xfe => some .noLoadDetected
  | _, 0xff => some .notLinked
  | _, _ => none

/-- The error for a refusal with this code. -/
def nakError (engine : Engine) (code : UInt8) : Error :=
  match engine.nakReason? code with
  | some reason => .nak reason
  | none => .unexpectedResponse code

end Engine

end Powerline
