import Powerline.Error
import Powerline.Time

/-!
# Configuration

What a modem and the connections through it are set up with. A configuration is usable if its
timeouts are not zero, its subscribers can hold a message and its messages do not take more hops
than the network allows.
-/

namespace Powerline

/-- The settings of a modem. -/
structure Config where
  /-- The path of the serial device. -/
  devicePath : String := "/dev/ttyUSB0"
  baudRate : Nat := 19200
  /-- How long a request waits for its echo, and then again for the device's answer. -/
  ackTimeout : Duration := Duration.ofSeconds 3
  /-- How long a read waits for each message. -/
  readTimeout : Duration := Duration.ofSeconds 5
  /-- The age at which a link table counts as stale. -/
  linkMaxAge : Duration := Duration.ofSeconds 300
  /-- The hops of messages from the host. -/
  maxHops : UInt8 := Powerline.maxHops
  /-- The messages that can wait for a subscriber. -/
  subscriberBuffer : Nat := 16
  /-- Relayed copies of messages are dropped. -/
  dropsRelays : Bool := true
  deriving DecidableEq, Repr

namespace Config

/-- Refuses a configuration that is not usable. -/
def validate (config : Config) : Except Error Unit :=
  if config.ackTimeout = 0 ∨ config.readTimeout = 0 then .error (.config .zeroTimeout)
  else if config.subscriberBuffer = 0 then .error (.config .emptyBuffer)
  else if config.maxHops > Powerline.maxHops then
    .error (.config (.tooManyHops config.maxHops Powerline.maxHops))
  else .ok ()

end Config

end Powerline
