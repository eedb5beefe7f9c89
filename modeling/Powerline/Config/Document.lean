import Powerline.Config
import Powerline.Json.Document
import Powerline.Json.Seconds

/-!
# Configuration documents

A configuration is written as a JSON object; fields that it leaves out keep their defaults and
fields that it does not know are passed over. An array gives the fields in their order.
-/

namespace Powerline.Config

/-- The names of the fields in their order. -/
def fieldNames : List String :=
  ["port", "baud_rate", "ack_timeout", "read_timeout", "link_db_max_age", "max_hops",
    "subscriber_buffer", "dedup"]

/-- The value of a field: its default if it is missing, none if it does not read. -/
def field? {α : Type} (read : Json → Option α) (initial : α) : Option Json → Option α
  | none => some initial
  | some value => read value

/-- Reads a configuration from a document. -/
def ofJson? (document : Json) : Option Config := do
  let initial : Config := {}
  match ← document.fields? fieldNames with
  | [path, baudRate, ackTimeout, readTimeout, linkMaxAge, maxHops, subscriberBuffer, dropsRelays] =>
      return {
        devicePath := ← field? Json.asText? initial.devicePath path
        baudRate := ← field? (Json.asNat? (Nat.pow 2 32 - 1)) initial.baudRate baudRate
        ackTimeout := ← field? Duration.ofJson? initial.ackTimeout ackTimeout
        readTimeout := ← field? Duration.ofJson? initial.readTimeout readTimeout
        linkMaxAge := ← field? Duration.ofJson? initial.linkMaxAge linkMaxAge
        maxHops := ← field? Json.asByte? initial.maxHops maxHops
        subscriberBuffer :=
          ← field? (Json.asNat? (Nat.pow 2 64 - 1)) initial.subscriberBuffer subscriberBuffer
        dropsRelays := ← field? Json.asBool? initial.dropsRelays dropsRelays }
  | _ => none

/-- Writes a configuration as a document. -/
def toJson (config : Config) : Json :=
  .record [
    ("port", .text config.devicePath),
    ("baud_rate", .nat config.baudRate),
    ("ack_timeout", Duration.toJson config.ackTimeout),
    ("read_timeout", Duration.toJson config.readTimeout),
    ("link_db_max_age", Duration.toJson config.linkMaxAge),
    ("max_hops", .nat config.maxHops.toNat),
    ("subscriber_buffer", .nat config.subscriberBuffer),
    ("dedup", .bool config.dropsRelays)]

/-- Reads a configuration, usable or not, from the text of a document. -/
def ofDocument (text : String) : Except DocumentFault Config :=
  Json.readDocument ofJson? (Json.refusedUnless ofJson?) text

/-- Reads a usable configuration from the text of a document. -/
def parse (text : String) : Except Error Config :=
  match ofDocument text with
  | .error _ => .error (.config .malformed)
  | .ok config => do
      config.validate
      return config

end Powerline.Config
