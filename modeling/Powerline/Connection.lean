import Powerline.Config
import Powerline.Dialogue
import Powerline.Engine

/-!
# Connections

A connection is one caller's view of a device behind the modem. It addresses messages to the
device, adds the checksums that the device's engine wants, and hears only that device.
-/

namespace Powerline

/-- A device behind a modem with these settings. -/
structure Connection where
  config : Config
  address : Address
  engine : Engine
  deriving Repr

namespace Connection

variable {σ : Type}

/-- The message as it goes out to the device. -/
def addressed (connection : Connection) (message : Message) : Message :=
  let message := { message with destination := connection.address }
  if connection.engine.requiresChecksum then message.withChecksum else message

/-- The direct message for a command. -/
def direct (connection : Connection) (command : Command) (payload : Bytes) : Message :=
  let flags := Flags.direct command.isExtended connection.config.maxHops
  if command.isExtended then
    .extended .zero connection.address flags command payload
  else .standard .zero connection.address flags command

/-- Sends a message to the device; its answer, also if it is a refusal. -/
def write (connection : Connection) (message : Message) : Dialogue σ Message :=
  .sendMessage (connection.addressed message)

/-- Turns a refusal into the error it stands for. -/
def checkAnswer (connection : Connection) (answer : Message) : Except Error Message :=
  if answer.isNak then .error (connection.engine.nakError answer.command.cmd2) else .ok answer

/-- Sends a command; the device's ack. -/
def send (connection : Connection) (command : Command) (payload : Bytes) :
    Dialogue σ Message := do
  let answer ← connection.write (connection.direct command payload)
  .ofExcept (connection.checkAnswer answer)

/-- Messages from the device that satisfy a pattern. -/
def heard (connection : Connection) (pattern : Pattern) : Pattern :=
  .source connection.address &&& pattern

/-- The next message from the device that satisfies a pattern. -/
def read (connection : Connection) (pattern : Pattern) (timeout : Duration) :
    Dialogue σ Message :=
  .withSubscription (connection.heard pattern) connection.config.subscriberBuffer fun id =>
    .receiveWithin id timeout

/-- Sends a command and waits for the message that it brings about. The subscription is there
before the command goes out, so that no message is too fast for it. -/
def request (connection : Connection) (command : Command) (payload : Bytes)
    (response : Pattern) : Dialogue σ Message :=
  .withSubscription (connection.heard response) connection.config.subscriberBuffer fun id => do
    let _ ← connection.send command payload
    .receiveWithin id connection.config.readTimeout

end Connection

/-- Asks the modem to describe itself. -/
def queryModem {σ : Type} : Dialogue σ ModemInfo := do
  let echo ← .commandPacket ⟨.getInfo, [], none⟩
  .ofExcept (ModemInfo.ofPacket echo)

end Powerline
