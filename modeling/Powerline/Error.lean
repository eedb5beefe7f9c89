import Powerline.Text.Hex
import Powerline.Text.Quoted

/-!
# Errors

An error is the cause of a failure. Its wording is in one place, `Error.message`; whether it is
worth another attempt is `Error.isRetryable`.
-/

namespace Powerline

/-- The reasons a device gives when it refuses a direct message. -/
inductive NakReason where
  | unknownCommand
  | noLoadDetected
  | notLinked
  | illegalValue
  | incorrectChecksum
  | preNak
  deriving DecidableEq, Repr

/-- The wording of a refusal. -/
def NakReason.message : NakReason → String
  | .unknownCommand => "device does not recognize the command"
  | .noLoadDetected => "no load detected"
  | .notLinked => "not in the device's all-link database"
  | .illegalValue => "illegal value in command"
  | .incorrectChecksum => "incorrect checksum"
  | .preNak => "pre nak, database search took too long"

/-- The ways in which the serial line itself fails. -/
inductive LineFault where
  | unexpectedEnd
  | brokenPipe
  | timedOut
  | writeZero
  | connectionReset
  deriving DecidableEq, Repr

/-- The wording of a line failure that brings no text of its own. -/
def LineFault.message : LineFault → String
  | .unexpectedEnd => "unexpected end of file"
  | .brokenPipe => "broken pipe"
  | .timedOut => "timed out"
  | .writeZero => "write zero"
  | .connectionReset => "connection reset"

/-- A failure of the serial line. -/
structure LineFailure where
  fault : LineFault
  /-- What the line reported in words, if anything. -/
  text : Option String := none
  deriving DecidableEq, Repr

/-- The reported words, or the wording of the fault. -/
def LineFailure.message (failure : LineFailure) : String :=
  failure.text.getD failure.fault.message

/-- What is wrong with a text that should be a device address. -/
inductive AddressFault where
  /-- Without its separators the text is not six octets long. -/
  | length
  /-- A pair of characters is no hexadecimal octet. -/
  | digit
  deriving DecidableEq, Repr

/-- What is wrong with a configuration. -/
inductive ConfigFault where
  /-- The document is not a configuration. -/
  | malformed
  | zeroTimeout
  | emptyBuffer
  | tooManyHops (hops limit : UInt8)
  | other (text : String)
  deriving DecidableEq, Repr

/-- The wording of a configuration fault. -/
def ConfigFault.message : ConfigFault → String
  | .malformed => "invalid configuration"
  | .zeroTimeout => "timeouts must be non-zero"
  | .emptyBuffer => "subscriber_buffer must be at least 1"
  | .tooManyHops hops limit => s!"max_hops {hops.toNat} exceeds {limit.toNat}"
  | .other text => text

/-- Data that breaks a rule of the protocol. -/
inductive ProtocolFault where
  | invalidAddress (text : String) (fault : AddressFault)
  | unknownEngine (byte : UInt8)
  | unknownLinkRequest (byte : UInt8)
  /-- A packet with this command byte carries no message. -/
  | noMessage (opcode : UInt8)
  /-- A packet with this command byte does not describe the modem. -/
  | notModemInfo (opcode : UInt8)
  | other (text : String)
  deriving DecidableEq, Repr

/-- How messages name the command byte of a packet. -/
def showOpcode (byte : UInt8) : String :=
  "PlmCommand(0x" ++ Hex.ofByte byte ++ ")"

/-- The wording of a protocol fault. -/
def ProtocolFault.message : ProtocolFault → String
  | .invalidAddress text .digit =>
      "invalid address " ++ Text.quote text ++ ": invalid digit found in string"
  | .invalidAddress text .length => "invalid address " ++ Text.quote text
  | .unknownEngine byte => "unknown engine version 0x" ++ Hex.ofByte byte
  | .unknownLinkRequest byte => "unknown link request type 0x" ++ Hex.ofByte byte
  | .noMessage opcode => showOpcode opcode ++ " does not carry a message"
  | .notModemInfo opcode => showOpcode opcode ++ " is not an info response"
  | .other text => text

/-- Why an operation failed. -/
inductive Error where
  | line (failure : LineFailure)
  | bufferTooShort (need got : Nat)
  /-- The byte after a sync byte names no packet. -/
  | unknownCommand (byte : UInt8)
  /-- Neither echo nor ack came in time. -/
  | ackTimeout
  /-- No matching message came in time. -/
  | readTimeout
  /-- The modem refused a packet with this command byte. -/
  | modemNak (byte : UInt8)
  /-- The device refused the message. -/
  | nak (reason : NakReason)
  | unexpectedResponse (code : UInt8)
  | invalidIndex (index length : Nat)
  | closed
  | transport (text : String)
  | config (fault : ConfigFault)
  | protocol (fault : ProtocolFault)
  deriving DecidableEq, Repr

namespace Error

/-- The wording of an error. -/
def message : Error → String
  | line failure => "IO error: " ++ failure.message
  | bufferTooShort need got => s!"buffer too short: need {need} bytes, got {got}"
  | unknownCommand byte => "unknown PLM command byte 0x" ++ Hex.ofByte byte
  | ackTimeout => "timed out waiting for ack"
  | readTimeout => "timed out waiting for response"
  | modemNak byte => "modem NAK'd command 0x" ++ Hex.ofByte byte
  | nak reason => "device NAK: " ++ reason.message
  | unexpectedResponse code => "unexpected response code 0x" ++ Hex.ofByte code
  | invalidIndex index length =>
      s!"link index {index} is past the end of the table ({length} records)"
  | closed => "connection closed"
  | transport text => "Transport error: " ++ text
  | config fault => "Configuration error: " ++ fault.message
  | protocol fault => "Protocol error: " ++ fault.message

/-- Nobody answered. -/
def isTimeout : Error → Bool
  | ackTimeout | readTimeout => true
  | _ => false

/-- The same request could reasonably succeed if it is sent again. -/
def isRetryable : Error → Bool
  | ackTimeout | readTimeout | modemNak _ | nak .preNak => true
  | _ => false

theorem isRetryable_of_isTimeout {error : Error} (timeout : error.isTimeout) :
    error.isRetryable := by
  unfold isTimeout at timeout
  split at timeout
  · rfl
  · rfl
  · contradiction

end Error

end Powerline
