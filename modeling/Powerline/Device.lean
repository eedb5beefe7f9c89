import Powerline.Directory
import Powerline.LinkDatabase
import Powerline.Retry

/-!
# Devices

A device behind the modem, and what a caller can ask of it beside its link table. A device is made
from a connection, or opened, which finds out its engine.
-/

namespace Powerline

/-- A device behind the modem. Its link table is reached through a connection of its own. -/
structure Device where
  connection : Connection
  database : LinkDatabase
  deriving Repr

namespace Device

variable {σ : Type}

/-- The device at the end of a connection. -/
def ofConnection (connection : Connection) : Device :=
  ⟨connection, .ofConnection connection⟩

/-- The device with another engine, also for the access to its link table. -/
def setEngine (device : Device) (engine : Engine) : Device :=
  ofConnection { device.connection with engine }

/-- The attempts at an engine query. -/
def engineAttempts : Nat := 3

/-- Asks the device for nothing but an ack. -/
def ping (connection : Connection) : Dialogue σ Unit := do
  let _ ← connection.send .ping []

/-- What the answers to an engine query say. A device with checksums that is not linked to the
modem refuses, and shows its engine by that. -/
def engineOf : Except Error Message → Except Error Engine
  | .ok ack => Engine.ofByte ack.command.cmd2
  | .error (.nak .notLinked) => .ok .i2cs
  | .error error => .error error

/-- Asks the device for its engine, repeatedly if the failure may mend. -/
def engine (connection : Connection) : Dialogue σ Engine := do
  let result ← retry (connection.send .getEngine []).attempt engineAttempts
  .ofExcept (engineOf result)

/-- The broadcasts that answer an identification request. -/
def setButton : Pattern :=
  .any [.command .setButtonResponder, .command .setButtonController]

/-- Asks for the product data. The answer carries them in place of a destination. -/
def identify (connection : Connection) : Dialogue σ DeviceInfo := do
  let reply ← connection.request .idRequest [] setButton
  let product := reply.destination
  return {
    address := connection.address
    engine := connection.engine
    category := some ⟨product.high, product.middle⟩
    firmware := some product.low }

/-- Turns the device on. -/
def turnOn (connection : Connection) (level : UInt8) : Dialogue σ Unit := do
  let _ ← connection.send (.withParameter .lightOn level) []

/-- Turns the device off. -/
def turnOff (connection : Connection) : Dialogue σ Unit := do
  let _ ← connection.send .lightOff []

/-- The level of the device. -/
def status (connection : Connection) : Dialogue σ UInt8 := do
  let ack ← connection.send .statusRequest []
  return ack.command.cmd2

/-- The command that puts a device with this engine into linking mode. -/
def linkingCommand (engine : Engine) : Command :=
  if engine = .i2cs then .enterLinkingExtended else .enterLinking

/-- Puts the device into linking mode for a group. -/
def enterLinking (connection : Connection) (group : UInt8) : Dialogue σ Unit := do
  let _ ← connection.send ((linkingCommand connection.engine).withParameter group) []

/-- Takes the device out of linking mode. -/
def exitLinking (connection : Connection) : Dialogue σ Unit := do
  let _ ← connection.send .exitLinking []

/-- Opens the device at an address. Its engine is the one in the directory, or else the one that
the device names, which then goes into the directory. -/
def openWith (config : Config) (address : Address) : Dialogue Directory Device := do
  match (← .memory).get? address with
  | some info => return ofConnection { config, address, engine := info.engine }
  | none =>
      let device := ofConnection { config, address, engine := .i2 }
      let engine ← engine device.connection
      .setMemory ((← .memory).put { address, engine })
      return device.setEngine engine

end Device

end Powerline
