import Powerline.Json.Reader

/-!
# Reading values from documents

A record is read member by member, in the order of the document, and the first member with a fault
ends the reading. Most faults refuse the document. Some texts have no reading at all; one of them
leaves the reading stuck, whatever the document holds behind it.
-/

namespace Powerline

/-- Why nothing is read from a document. -/
inductive DocumentFault where
  /-- The document is not what it should be. -/
  | refused
  /-- Reading came to a text that has no reading at all. -/
  | stuck
  deriving DecidableEq, Repr

namespace Json

/-- The fault of a value that has to be readable in a given way. -/
def refusedUnless {α : Type} (read : Json → Option α) (value : Json) : Option DocumentFault :=
  if (read value).isSome then none else some .refused

/-- How the values of the fields of a record are looked at, in the order of the fields. -/
abbrev FieldChecks := List (String × (Json → Option DocumentFault))

/-- The first fault among members, when those with the names in `seen` were read before. A name
must have a text and must not repeat that of another field; names of no field are passed over. -/
def membersFault? (checks : FieldChecks) (seen : List String) :
    List (Option String × Json) → Option DocumentFault
  | [] => none
  | (none, _) :: _ => some .refused
  | (some name, value) :: rest =>
      match checks.lookup name with
      | none => membersFault? checks seen rest
      | some check =>
          if seen.contains name then some .refused
          else (check value).or (membersFault? checks (name :: seen) rest)

/-- The first fault of a record as far as it goes; missing fields are none. -/
def recordFault? (checks : FieldChecks) : Json → Option DocumentFault
  | object members => membersFault? checks [] members
  | array items => membersFault? checks [] ((checks.map fun (name, _) => some name).zip items)
  | _ => some .refused

/-- Reads a value from the text of a document, where `fault?` tells the first fault of a value that
may not be complete. -/
def readDocument {α : Type} (read : Json → Option α) (fault? : Json → Option DocumentFault)
    (text : String) : Except DocumentFault α :=
  let start := excerpt text
  if start.value.bind fault? = some .stuck then .error .stuck
  else
    match if start.isWhole then start.value.bind read else none with
    | some value => .ok value
    | none => .error .refused

end Json

end Powerline
