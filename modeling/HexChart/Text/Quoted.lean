import HexChart.Text.Printable

/-!
# Quoted text in messages

Messages quote characters and names so that every character can be seen: the
quote mark and the backslash are escaped, and so is each character that would
not show by itself.
-/

namespace HexChart.Text

/-- The digits of a code point in lower-case hexadecimal, between braces. -/
def codeEscape (character : Char) : List Char :=
  '\\' :: 'u' :: '\x7b' :: Nat.toDigits 16 character.toNat ++ ['\x7d']

/-- A character as it stands inside a quotation that ends with `mark`. -/
def escape (mark character : Char) : List Char :=
  if character = mark then ['\\', character]
  else match character with
    | '\x00' => ['\\', '0']
    | '\t' => ['\\', 't']
    | '\r' => ['\\', 'r']
    | '\n' => ['\\', 'n']
    | '\\' => ['\\', '\\']
    | _ => if isShown character then [character] else codeEscape character

def quoteChar (character : Char) : String :=
  String.ofList ('\x27' :: escape '\x27' character ++ ['\x27'])

def quote (text : String) : String :=
  String.ofList ('"' :: text.toList.flatMap (escape '"') ++ ['"'])

end HexChart.Text
