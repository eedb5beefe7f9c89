import Powerline.Directory
import Powerline.Json.Document
import Powerline.Link.Record

/-!
# Documents about devices

Addresses, engines, categories, entries of the directory and link records as JSON. An address is
its written form, an engine its name, a category a pair, and record flags a number. Entries and
records are objects, or arrays of all their fields in order; a missing category or firmware is
unknown. Reading the text of an address can get stuck, and the document with it.
-/

namespace Powerline

namespace Address

/-- Reads an address. -/
def ofJson? (value : Json) : Option Address := do
  let text ← value.asText?
  (parse text).toOption

/-- What is wrong with the value of an address. -/
def fault? (value : Json) : Option DocumentFault :=
  match value.asText?.map parse with
  | some (.value _) => none
  | some .stuck => some .stuck
  | some (.refused _) | none => some .refused

/-- Reads an address from the text of a document. -/
def ofDocument : String → Except DocumentFault Address :=
  Json.readDocument ofJson? fault?

/-- Writes an address. -/
def toJson (address : Address) : Json := .text address.render

end Address

namespace Engine

/-- Reads an engine: its name, or an object whose one member has that name and is null. -/
def ofJson? : Json → Option Engine
  | .string text => text >>= ofName?
  | .object [(name, .null)] => name >>= ofName?
  | _ => none

/-- Reads an engine from the text of a document. -/
def ofDocument : String → Except DocumentFault Engine :=
  Json.readDocument ofJson? (Json.refusedUnless ofJson?)

/-- Writes an engine. -/
def toJson (engine : Engine) : Json := .text engine.render

end Engine

namespace DeviceCategory

/-- Reads a category. -/
def ofJson? : Json → Option DeviceCategory
  | .array [category, subcategory] => do
      return ⟨← category.asByte?, ← subcategory.asByte?⟩
  | _ => none

/-- Reads a category from the text of a document. -/
def ofDocument : String → Except DocumentFault DeviceCategory :=
  Json.readDocument ofJson? (Json.refusedUnless ofJson?)

/-- Writes a category. -/
def toJson (category : DeviceCategory) : Json :=
  .array [.nat category.category.toNat, .nat category.subcategory.toNat]

end DeviceCategory

/-- Reads what may be unknown: null and a missing field are. -/
def Json.asOptional? {α : Type} (read : Json → Option α) : Option Json → Option (Option α)
  | none | some .null => some none
  | some value => (read value).map some

namespace DeviceInfo

/-- What is looked at in an entry of the directory, field by field. -/
def fieldChecks : Json.FieldChecks := [
  ("address", Address.fault?),
  ("engine_version", Json.refusedUnless Engine.ofJson?),
  ("dev_cat", Json.refusedUnless fun value =>
    Json.asOptional? DeviceCategory.ofJson? (some value)),
  ("firmware", Json.refusedUnless fun value => Json.asOptional? Json.asByte? (some value))]

/-- Reads an entry of the directory. -/
def ofJson? (value : Json) : Option DeviceInfo := do
  match ← value.fullFields? (fieldChecks.map Prod.fst) with
  | [some address, some engine, category, firmware] =>
      return {
        address := ← Address.ofJson? address
        engine := ← Engine.ofJson? engine
        category := ← Json.asOptional? DeviceCategory.ofJson? category
        firmware := ← Json.asOptional? Json.asByte? firmware }
  | _ => none

/-- Reads an entry of the directory from the text of a document. -/
def ofDocument : String → Except DocumentFault DeviceInfo :=
  Json.readDocument ofJson? (Json.recordFault? fieldChecks)

/-- Writes an entry of the directory. -/
def toJson (info : DeviceInfo) : Json :=
  .record [
    ("address", info.address.toJson),
    ("engine_version", info.engine.toJson),
    ("dev_cat", info.category.elim .null DeviceCategory.toJson),
    ("firmware", info.firmware.elim .null fun byte => .nat byte.toNat)]

end DeviceInfo

namespace RecordFlags

/-- Reads record flags. -/
def ofJson? (value : Json) : Option RecordFlags := value.asByte?.map RecordFlags.mk

/-- Reads record flags from the text of a document. -/
def ofDocument : String → Except DocumentFault RecordFlags :=
  Json.readDocument ofJson? (Json.refusedUnless ofJson?)

/-- Writes record flags. -/
def toJson (flags : RecordFlags) : Json := .nat flags.byte.toNat

end RecordFlags

namespace LinkRecord

/-- Reads the application data of a record. -/
def dataOfJson? : Json → Option (UInt8 × UInt8 × UInt8)
  | .array [data1, data2, data3] => do
      return (← data1.asByte?, ← data2.asByte?, ← data3.asByte?)
  | _ => none

/-- What is looked at in a link record, field by field. -/
def fieldChecks : Json.FieldChecks := [
  ("flags", Json.refusedUnless RecordFlags.ofJson?),
  ("group", Json.refusedUnless Json.asByte?),
  ("address", Address.fault?),
  ("data", Json.refusedUnless dataOfJson?)]

/-- Reads a link record. -/
def ofJson? (value : Json) : Option LinkRecord := do
  match ← value.fullFields? (fieldChecks.map Prod.fst) with
  | [some flags, some group, some address, some data] =>
      let (data1, data2, data3) ← dataOfJson? data
      return {
        flags := ← RecordFlags.ofJson? flags
        group := ← group.asByte?
        address := ← Address.ofJson? address
        data1, data2, data3 }
  | _ => none

/-- Reads a link record from the text of a document. -/
def ofDocument : String → Except DocumentFault LinkRecord :=
  Json.readDocument ofJson? (Json.recordFault? fieldChecks)

/-- Writes a link record. -/
def toJson (record : LinkRecord) : Json :=
  .record [
    ("flags", record.flags.toJson),
    ("group", .nat record.group.toNat),
    ("address", record.address.toJson),
    ("data", .array [.nat record.data1.toNat, .nat record.data2.toNat, .nat record.data3.toNat])]

end LinkRecord

end Powerline
