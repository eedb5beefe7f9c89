import Powerline.Error

/-!
# Device addresses

A device is named by three octets, written `1a.2b.3c`. Reading also takes the separators `:` and
space, or none, wherever they stand: only the six octets that are left count, cut into three
pairs. The first character of a pair may be a plus sign. A text that a cut would go through in the
middle of a character is neither read nor refused.
-/

namespace Powerline

/-- The three octets that name a device on the line. -/
structure Address where
  high : UInt8
  middle : UInt8
  low : UInt8
  deriving DecidableEq, Repr, Inhabited

namespace Address

/-- The address that no device has. -/
def zero : Address := ⟨0, 0, 0⟩

/-- The octets in the order of the wire. -/
def toBytes (address : Address) : Bytes :=
  [address.high, address.middle, address.low]

/-- The address in the first three octets; the rest does not matter. -/
def ofBytes : Bytes → Except Error Address
  | high :: middle :: low :: _ => .ok ⟨high, middle, low⟩
  | short => .error (.bufferTooShort 3 short.length)

/-- True for the address that no device has. -/
def isZero (address : Address) : Bool :=
  address = zero

/-- The written form of an address. -/
def render (address : Address) : String :=
  Hex.ofByte address.high ++ "." ++ Hex.ofByte address.middle ++ "." ++ Hex.ofByte address.low

/-- Characters that may stand anywhere in a written address. -/
def isSeparator (char : Char) : Bool :=
  char = '.' || char = ':' || char = ' '

/-- What comes of reading a text. -/
inductive Reading (ε α : Type) where
  /-- The text stands for a value. -/
  | value (value : α)
  /-- The text is refused for a reason. -/
  | refused (reason : ε)
  /-- Reading broke off at a place where the text cannot be cut. It has no result at all. -/
  | stuck
  deriving DecidableEq, Repr

namespace Reading

variable {ε α β : Type}

/-- Goes on with the value. -/
def bind (reading : Reading ε α) (next : α → Reading ε β) : Reading ε β :=
  match reading with
  | value found => next found
  | refused reason => refused reason
  | stuck => stuck

instance : Monad (Reading ε) where
  pure := value
  bind := bind

/-- The value, if there is one. -/
def toOption : Reading ε α → Option α
  | value found => some found
  | refused _ | stuck => none

end Reading

/-- Cuts a text behind so many octets, if there is a place between two characters. -/
def cut? : Nat → List Char → Option (List Char × List Char)
  | 0, chars => some ([], chars)
  | _ + 1, [] => none
  | octets + 1, char :: rest =>
      if char.utf8Size ≤ octets + 1 then do
        let (front, back) ← cut? (octets + 1 - char.utf8Size) rest
        return (char :: front, back)
      else none

/-- The octet that a pair denotes: two digits, or a plus sign and one digit. -/
def octet? : List Char → Option UInt8
  | [first, second] => if first = '+' then Hex.value? second else Hex.pair? first second
  | _ => none

/-- Reads `count` pairs, each two octets of text, from the left. -/
def readPairs : Nat → List Char → Reading AddressFault Bytes
  | 0, _ => .value []
  | count + 1, chars =>
      match cut? 2 chars with
      | none => .stuck
      | some (pair, rest) =>
          match octet? pair with
          | none => .refused .digit
          | some byte => do return byte :: (← readPairs count rest)

/-- Reads the characters of an address. -/
def readChars (chars : List Char) : Reading AddressFault Address :=
  let digits := chars.filter fun char => !isSeparator char
  if (String.ofList digits).utf8ByteSize = 6 then do
    match ← readPairs 3 digits with
    | [high, middle, low] => return ⟨high, middle, low⟩
    | _ => .refused .length
  else .refused .length

/-- Reads a written address. -/
def parse (text : String) : Reading Error Address :=
  match readChars text.toList with
  | .value address => .value address
  | .refused fault => .refused (.protocol (.invalidAddress text fault))
  | .stuck => .stuck

@[simp] theorem length_toBytes (address : Address) : address.toBytes.length = 3 := rfl

@[simp] theorem ofBytes_toBytes_append (address : Address) (rest : Bytes) :
    ofBytes (address.toBytes ++ rest) = .ok address := rfl

end Address

end Powerline
