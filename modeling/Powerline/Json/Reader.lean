import Powerline.Json.Token

/-!
# Reading JSON documents

The tokens of a document are taken in one at a time. What has been read of the arrays and objects
that are still open waits on a stack, the innermost first. Of a text that is no document, the part
before the first token that does not fit can still be looked at.
-/

namespace Powerline.Json

/-- An array or object that is still open. -/
inductive Container where
  /-- An array with its items, the latest first. -/
  | array (items : List Json)
  /-- An object with its members, the latest first. -/
  | object (members : List (Option String × Json))
  /-- An object with its members and the name of the member that is being read. -/
  | member (members : List (Option String × Json)) (name : Option String)

/-- What a document may go on with. -/
inductive Progress where
  /-- A value comes next; directly behind an opening bracket the array may also close. -/
  | awaitValue (stack : List Container) (closable : Bool)
  /-- The name of a member comes next; directly behind an opening brace the object may also
  close. -/
  | awaitName (members : List (Option String × Json)) (stack : List Container) (closable : Bool)
  /-- The colon between the name and the value of a member comes next. -/
  | awaitColon (members : List (Option String × Json)) (name : Option String)
      (stack : List Container)
  /-- A comma comes next, or the end of the innermost container. -/
  | awaitNext (stack : List Container)
  /-- The document is complete. -/
  | complete (value : Json)

/-- A value is complete. -/
def Progress.close (value : Json) : List Container → Progress
  | [] => .complete value
  | .array items :: outer => .awaitNext (.array (value :: items) :: outer)
  | .member members name :: outer => .awaitNext (.object ((name, value) :: members) :: outer)
  | .object members :: outer => .awaitNext (.object members :: outer)

/-- Takes one token in. -/
def Progress.step : Progress → Token → Option Progress
  | .awaitValue stack _, .scalar value => some (.close value stack)
  | .awaitValue stack _, .openArray => some (.awaitValue (.array [] :: stack) true)
  | .awaitValue stack _, .openObject => some (.awaitName [] stack true)
  | .awaitValue (.array items :: outer) true, .closeArray =>
      some (.close (.array items.reverse) outer)
  | .awaitName members stack _, .scalar (.string name) => some (.awaitColon members name stack)
  | .awaitName members stack true, .closeObject => some (.close (.object members.reverse) stack)
  | .awaitColon members name stack, .colon =>
      some (.awaitValue (.member members name :: stack) false)
  | .awaitNext (.array items :: outer), .comma => some (.awaitValue (.array items :: outer) false)
  | .awaitNext (.array items :: outer), .closeArray => some (.close (.array items.reverse) outer)
  | .awaitNext (.object members :: outer), .comma => some (.awaitName members outer false)
  | .awaitNext (.object members :: outer), .closeObject =>
      some (.close (.object members.reverse) outer)
  | _, _ => none

/-- Takes tokens in up to the first that does not fit: what was reached, and whether all fit. -/
def Progress.run : Progress → List Token → Progress × Bool
  | progress, [] => (progress, true)
  | progress, token :: rest =>
      match progress.step token with
      | some next => next.run rest
      | none => (progress, false)

/-- What is complete of an array or object that is still open. -/
def Container.contents : Container → Json
  | .array items => .array items.reverse
  | .object members | .member members _ => .object members.reverse

/-- The outermost value, as far as it has been read. -/
def Progress.value? : Progress → Option Json
  | .awaitValue stack _ | .awaitNext stack => stack.getLast?.map Container.contents
  | .awaitName members stack _ | .awaitColon members _ stack =>
      (Container.object members :: stack).getLast?.map Container.contents
  | .complete value => some value

/-- The start of a text that reads as a document. -/
structure Excerpt where
  /-- The outermost value with those of its parts that are complete. -/
  value : Option Json
  /-- The excerpt is the whole text, and the text is a document. -/
  isWhole : Bool

/-- As much of a text as reads as a document. -/
def excerpt (text : String) : Excerpt :=
  let (tokens, isRead) := tokens text
  match Progress.run (.awaitValue [] false) tokens with
  | (.complete value, fits) => ⟨some value, isRead && fits⟩
  | (progress, _) => ⟨progress.value?, false⟩

/-- Reads a document. -/
def parse? (text : String) : Option Json :=
  let start := excerpt text
  if start.isWhole then start.value else none

end Powerline.Json
