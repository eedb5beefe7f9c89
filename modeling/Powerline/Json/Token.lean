import Powerline.Json

/-!
# Tokens of JSON documents

A document is a sequence of tokens with blanks between them. The four blanks are space, tab, line
feed and carriage return.
-/

namespace Powerline.Json

/-- A lexical unit of a document. -/
inductive Token where
  | openArray
  | closeArray
  | openObject
  | closeObject
  | comma
  | colon
  /-- A value that is no array and no object. -/
  | scalar (value : Json)
  deriving Inhabited

/-- A blank between tokens. -/
def isBlank (char : Char) : Bool :=
  char = ' ' || char = '\t' || char = '\n' || char = '\r'

/-- What one character or escape of a string denotes: a character, or a unit of UTF-16. -/
inductive StringItem where
  | char (char : Char)
  | unit (unit : Nat)

/-- The unit that four hexadecimal digits denote. -/
def unit? (a b c d : Char) : Option Nat := do
  let high ← Hex.pair? a b
  let low ← Hex.pair? c d
  return high.toNat * 256 + low.toNat

/-- The character of a one-letter escape. -/
def escaped? : Char → Option Char
  | '"' => some '"'
  | '\\' => some '\\'
  | '/' => some '/'
  | 'b' => some '\x08'
  | 'f' => some '\x0c'
  | 'n' => some '\n'
  | 'r' => some '\r'
  | 't' => some '\t'
  | _ => none

/-- The items of a string up to its closing quote, and what follows. Controls do not stand in a
string as they are. -/
def stringItems? : List Char → Option (List StringItem × List Char)
  | [] => none
  | '"' :: rest => some ([], rest)
  | '\\' :: 'u' :: a :: b :: c :: d :: rest => do
      let unit ← unit? a b c d
      let (items, rest) ← stringItems? rest
      return (.unit unit :: items, rest)
  | '\\' :: letter :: rest => do
      let char ← escaped? letter
      let (items, rest) ← stringItems? rest
      return (.char char :: items, rest)
  | char :: rest => do
      if char.toNat < 0x20 then none
      else
        let (items, rest) ← stringItems? rest
        return (.char char :: items, rest)

/-- The first unit of a surrogate pair. -/
def isHighSurrogate (unit : Nat) : Bool := 0xd800 ≤ unit && unit ≤ 0xdbff

/-- The second unit of a surrogate pair. -/
def isLowSurrogate (unit : Nat) : Bool := 0xdc00 ≤ unit && unit ≤ 0xdfff

/-- The characters that items denote; none if a surrogate stands alone. -/
def itemsText? : List StringItem → Option (List Char)
  | [] => some []
  | .char char :: rest => (itemsText? rest).map (char :: ·)
  | .unit high :: .unit low :: rest =>
      if isHighSurrogate high then
        if isLowSurrogate low then
          (itemsText? rest).map
            (Char.ofNat (0x10000 + (high - 0xd800) * 0x400 + (low - 0xdc00)) :: ·)
        else none
      else if isLowSurrogate high then none
      else (itemsText? (.unit low :: rest)).map (Char.ofNat high :: ·)
  | .unit unit :: rest =>
      if isHighSurrogate unit || isLowSurrogate unit then none
      else (itemsText? rest).map (Char.ofNat unit :: ·)

/-- Splits a text behind its leading digits, of which there is at least one. -/
def takeDigits? (chars : List Char) : Option (List Char × List Char) :=
  match chars.span Char.isDigit with
  | ([], _) => none
  | split => some split

/-- The digits before the point: a leading zero stands alone. -/
def takeWhole? (chars : List Char) : Option (List Char × List Char) := do
  let (digits, rest) ← takeDigits? chars
  match digits with
  | '0' :: _ :: _ => none
  | _ => return (digits, rest)

/-- The point and the digits behind it, if a point follows. -/
def takeFraction? : List Char → Option (Option (List Char) × List Char)
  | '.' :: rest => do
      let (digits, rest) ← takeDigits? rest
      return (some digits, rest)
  | rest => some (none, rest)

/-- The sign of an exponent; none means a positive one. -/
def takeSign : List Char → Bool × List Char
  | '-' :: rest => (true, rest)
  | '+' :: rest => (false, rest)
  | rest => (false, rest)

/-- The exponent, if one follows. -/
def takeExponent? : List Char → Option (Option (Bool × List Char) × List Char)
  | 'e' :: rest | 'E' :: rest => do
      let (negative, rest) := takeSign rest
      let (digits, rest) ← takeDigits? rest
      return (some (negative, digits), rest)
  | rest => some (none, rest)

/-- A number behind its sign. -/
def takeNumber? (negative : Bool) (chars : List Char) : Option (Json × List Char) := do
  let (whole, rest) ← takeWhole? chars
  let (fraction, rest) ← takeFraction? rest
  let (exponent, rest) ← takeExponent? rest
  return (.number { negative, whole, fraction, exponent }, rest)

/-- The token at the start of a text that starts with no blank, and what follows it. -/
def takeToken? : List Char → Option (Token × List Char)
  | '[' :: rest => some (.openArray, rest)
  | ']' :: rest => some (.closeArray, rest)
  | '\x7b' :: rest => some (.openObject, rest)
  | '\x7d' :: rest => some (.closeObject, rest)
  | ',' :: rest => some (.comma, rest)
  | ':' :: rest => some (.colon, rest)
  | 'n' :: 'u' :: 'l' :: 'l' :: rest => some (.scalar .null, rest)
  | 't' :: 'r' :: 'u' :: 'e' :: rest => some (.scalar (.bool true), rest)
  | 'f' :: 'a' :: 'l' :: 's' :: 'e' :: rest => some (.scalar (.bool false), rest)
  | '"' :: rest => do
      let (items, rest) ← stringItems? rest
      return (.scalar (.string ((itemsText? items).map String.ofList)), rest)
  | '-' :: rest => do
      let (value, rest) ← takeNumber? true rest
      return (.scalar value, rest)
  | chars => do
      let (value, rest) ← takeNumber? false chars
      return (.scalar value, rest)

/-- The tokens at the start of a text, at most `bound` of them, and whether nothing is left
behind them. -/
def tokensUpTo : (bound : Nat) → List Char → List Token × Bool
  | 0, chars => ([], (chars.dropWhile isBlank).isEmpty)
  | bound + 1, chars =>
      match chars.dropWhile isBlank with
      | [] => ([], true)
      | chars =>
          match takeToken? chars with
          | none => ([], false)
          | some (token, rest) =>
              let (tokens, isWhole) := tokensUpTo bound rest
              (token :: tokens, isWhole)

/-- The tokens of a text as far as it has any, and whether that is all of it. Every token takes a
character at least. -/
def tokens (text : String) : List Token × Bool :=
  tokensUpTo text.length text.toList

end Powerline.Json
