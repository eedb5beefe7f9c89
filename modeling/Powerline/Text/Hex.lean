/-!
# Hexadecimal text

Octets are shown as two lower-case hexadecimal digits. Reading accepts digits of either case and
gives back what was written: `Hex.toBytes?_ofBytes`. A text cut within an octet is read as well,
its last digit then being an octet of its own.
-/

namespace Powerline

/-- A string of octets, the first octet first. -/
abbrev Bytes := List UInt8

namespace Hex

/-- The lower-case digit for the low half of an octet. -/
def digit (nibble : UInt8) : Char :=
  match (nibble &&& 15).toNat with
  | 0 => '0' | 1 => '1' | 2 => '2' | 3 => '3' | 4 => '4' | 5 => '5' | 6 => '6' | 7 => '7'
  | 8 => '8' | 9 => '9' | 10 => 'a' | 11 => 'b' | 12 => 'c' | 13 => 'd' | 14 => 'e' | _ => 'f'

/-- The two digits of an octet, high half first. -/
def digits (byte : UInt8) : List Char :=
  [digit (byte >>> 4), digit byte]

/-- The text of one octet. -/
def ofByte (byte : UInt8) : String :=
  String.ofList (digits byte)

/-- The text of a string of octets, without separators. -/
def ofBytes (bytes : Bytes) : String :=
  String.ofList (bytes.flatMap digits)

/-- The value of a hexadecimal digit of either case. -/
def value? (char : Char) : Option UInt8 :=
  if '0' ≤ char ∧ char ≤ '9' then some (char.toNat - '0'.toNat).toUInt8
  else if 'a' ≤ char ∧ char ≤ 'f' then some (char.toNat - 'a'.toNat + 10).toUInt8
  else if 'A' ≤ char ∧ char ≤ 'F' then some (char.toNat - 'A'.toNat + 10).toUInt8
  else none

/-- The octet that two digits denote. -/
def pair? (high low : Char) : Option UInt8 := do
  let highValue ← value? high
  let lowValue ← value? low
  return highValue * 16 + lowValue

/-- Reads a string of digits pair by pair. A digit left over at the end is an octet by itself. -/
def ofDigits? : List Char → Option Bytes
  | [] => some []
  | [single] => do
    let byte ← value? single
    return [byte]
  | high :: low :: rest => do
    let byte ← pair? high low
    let bytes ← ofDigits? rest
    return byte :: bytes

/-- Reads the text that `ofBytes` writes, and the beginnings of such a text. -/
def toBytes? (text : String) : Option Bytes :=
  ofDigits? text.toList

theorem pair?_digits (byte : UInt8) :
    pair? (digit (byte >>> 4)) (digit byte) = some byte := by
  have every : ∀ number : Fin 256,
      pair? (digit (UInt8.ofNat number.val >>> 4)) (digit (UInt8.ofNat number.val))
        = some (UInt8.ofNat number.val) := by decide +kernel
  have bound : byte.toNat < 256 := byte.toNat_lt
  simpa using every ⟨byte.toNat, bound⟩

theorem ofDigits?_flatMap (bytes : Bytes) : ofDigits? (bytes.flatMap digits) = some bytes := by
  induction bytes with
  | nil => rfl
  | cons byte rest ih =>
      simp only [List.flatMap_cons, digits, List.cons_append, List.nil_append] at ih ⊢
      simp [ofDigits?, pair?_digits, ih]

/-- Writing octets and reading the text gives the octets back. -/
theorem toBytes?_ofBytes (bytes : Bytes) : toBytes? (ofBytes bytes) = some bytes := by
  simp [toBytes?, ofBytes, ofDigits?_flatMap]

end Hex

end Powerline
