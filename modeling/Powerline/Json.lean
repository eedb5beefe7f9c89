import Powerline.Text.Hex

/-!
# JSON documents

The tree of a document keeps numbers as they are written, because what a number means depends on
the field it stands in, and keeps strings that denote no text, because a document may hold them
in places that nobody looks at.
-/

namespace Powerline

/-- A number as it is written. -/
structure JsonNumber where
  negative : Bool := false
  /-- The digits before the point. -/
  whole : List Char
  /-- The digits behind the point, if there is one. -/
  fraction : Option (List Char) := none
  /-- The exponent, if there is one: whether it is negative, and its digits. -/
  exponent : Option (Bool × List Char) := none
  deriving DecidableEq, Repr, Inhabited

/-- A JSON value. -/
inductive Json where
  | null
  | bool (value : Bool)
  | number (number : JsonNumber)
  /-- A string; without a text if its escapes name half of a surrogate pair. -/
  | string (text : Option String)
  | array (items : List Json)
  /-- The members in the order of the document, repeated names included. -/
  | object (members : List (Option String × Json))
  deriving Inhabited

namespace JsonNumber

/-- Written without point and exponent. -/
def isInteger (number : JsonNumber) : Bool :=
  number.fraction.isNone && number.exponent.isNone

/-- The value of a string of decimal digits. -/
def digitsValue (digits : List Char) : Nat :=
  digits.foldl (fun value digit => value * 10 + (digit.toNat - '0'.toNat)) 0

/-- The number that stands for a natural number. -/
def ofNat (value : Nat) : JsonNumber := { whole := Nat.toDigits 10 value }

/-- The natural number, if it is written as one. A minus sign makes it none, also before a
zero. -/
def toNat? (number : JsonNumber) : Option Nat :=
  if number.isInteger && !number.negative then some (digitsValue number.whole) else none

/-- The text of a number; a positive exponent has a sign too. -/
def chars (number : JsonNumber) : List Char :=
  (if number.negative then ['-'] else []) ++ number.whole
    ++ number.fraction.elim [] ('.' :: ·)
    ++ number.exponent.elim [] fun (negative, digits) =>
        'e' :: (if negative then '-' else '+') :: digits

end JsonNumber

namespace Json

/-- A string with a text. -/
def text (value : String) : Json := string (some value)

/-- A natural number. -/
def nat (value : Nat) : Json := number (.ofNat value)

/-- An object with the given members. -/
def record (members : List (String × Json)) : Json :=
  object (members.map fun (name, value) => (some name, value))

/-- How one character stands in a string: a quote, a backslash and the controls are escaped. -/
def escapeChar (char : Char) : List Char :=
  match char with
  | '"' => ['\\', '"']
  | '\\' => ['\\', '\\']
  | '\n' => ['\\', 'n']
  | '\r' => ['\\', 'r']
  | '\t' => ['\\', 't']
  | '\x08' => ['\\', 'b']
  | '\x0c' => ['\\', 'f']
  | other =>
      if other.toNat < 0x20 then ['\\', 'u', '0', '0'] ++ Hex.digits other.toNat.toUInt8
      else [other]

/-- A text as a string of a document. -/
def quoteChars (text : String) : List Char :=
  '"' :: text.toList.flatMap escapeChar ++ ['"']

mutual

/-- The characters of a value in compact form. -/
def chars : Json → List Char
  | null => ['n', 'u', 'l', 'l']
  | bool true => ['t', 'r', 'u', 'e']
  | bool false => ['f', 'a', 'l', 's', 'e']
  | number value => value.chars
  | string value => quoteChars (value.getD "")
  | array items => '[' :: itemChars items ++ [']']
  | object members => '\x7b' :: memberChars members ++ ['\x7d']

/-- The items of an array, separated by commas. -/
def itemChars : List Json → List Char
  | [] => []
  | [item] => item.chars
  | item :: rest => item.chars ++ ',' :: itemChars rest

/-- The members of an object, separated by commas. -/
def memberChars : List (Option String × Json) → List Char
  | [] => []
  | [(name, value)] => quoteChars (name.getD "") ++ ':' :: value.chars
  | (name, value) :: rest =>
      quoteChars (name.getD "") ++ ':' :: value.chars ++ ',' :: memberChars rest

end

/-- The compact text of a value, without blanks. -/
def render (value : Json) : String :=
  String.ofList value.chars

/-- The text of a string. -/
def asText? : Json → Option String
  | string text => text
  | _ => none

/-- The value of a boolean. -/
def asBool? : Json → Option Bool
  | bool value => some value
  | _ => none

/-- A natural number of at most a given size. -/
def asNat? (limit : Nat) : Json → Option Nat
  | number value => value.toNat?.filter (· ≤ limit)
  | _ => none

/-- An octet. -/
def asByte? (value : Json) : Option UInt8 :=
  (value.asNat? 255).map UInt8.ofNat

/-- The items of an array. -/
def asArray? : Json → Option (List Json)
  | array items => some items
  | _ => none

/-- The first member of an object with a given name. -/
def member? (name : String) : Json → Option Json
  | object members => (members.find? fun (known, _) => known = some name).map Prod.snd
  | _ => none

/-- The only member of this name in a list of members; a repeated name is refused. -/
def uniqueMember (members : List (Option String × Json)) (name : String) :
    Option (Option Json) :=
  match members.filter fun (known, _) => known = some name with
  | [] => some none
  | [(_, value)] => some (some value)
  | _ => none

/-- The fields of a record, in the order of their names: from an object whose members may stand
in any order, unknown ones among them, or from an array that lists them in order. Fields may be
missing from an object, and at the end of an array. -/
def fields? (names : List String) : Json → Option (List (Option Json))
  | object members =>
      if members.any fun (name, _) => name.isNone then none
      else names.mapM (uniqueMember members)
  | array items =>
      if items.length > names.length then none
      else some (items.map some ++ List.replicate (names.length - items.length) none)
  | _ => none

/-- The fields of a record none of which may be missing from an array. -/
def fullFields? (names : List String) (value : Json) : Option (List (Option Json)) :=
  match value with
  | array items => if items.length = names.length then value.fields? names else none
  | _ => value.fields? names

end Json

end Powerline
