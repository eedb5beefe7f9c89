import Powerline.Text.Printable

/-!
# Quoted text

Messages show text that came from outside in double quotes. Within them a quote and a backslash
are escaped, the four common controls have a letter of their own, and any other character that
does not show is written by its code point.
-/

namespace Powerline.Text

/-- The escape that names a character by its code point, in hexadecimal. -/
def codePointEscape (char : Char) : List Char :=
  ['\\', 'u', '\x7b'] ++ Nat.toDigits 16 char.toNat ++ ['\x7d']

/-- How one character stands between the quotes. -/
def quoteChar (char : Char) : List Char :=
  match char with
  | '"' => ['\\', '"']
  | '\\' => ['\\', '\\']
  | '\n' => ['\\', 'n']
  | '\r' => ['\\', 'r']
  | '\t' => ['\\', 't']
  | '\x00' => ['\\', '0']
  | other => if isPrintable other then [other] else codePointEscape other

/-- A text in double quotes. -/
def quote (text : String) : String :=
  String.ofList ('"' :: text.toList.flatMap quoteChar ++ ['"'])

end Powerline.Text
