/-!
# How numbers are spelled

A number is spelled in decimal digits with a point among them, before them or
after them, and perhaps with an exponent; or it is one of the words for what is
no finite number.  A sign may stand before all of it.
-/

namespace HexChart.Decimal

/-- A text after the sign at its front, if there is one. -/
def afterSign : List Char → List Char
  | '+' :: rest | '-' :: rest => rest
  | rest => rest

/-- Whether a text is nothing or spells an exponent. -/
def isExponent : List Char → Bool
  | [] => true
  | letter :: rest =>
    let digits := afterSign rest
    (letter == 'e' || letter == 'E') && !digits.isEmpty && digits.all Char.isDigit

/-- The digits at the front of a text that follow a point, and the text after
them.  Without a point there are none. -/
def fraction : List Char → List Char × List Char
  | '.' :: rest => (rest.takeWhile Char.isDigit, rest.dropWhile Char.isDigit)
  | rest => ([], rest)

/-- Whether a text spells a finite number without a sign.  There is a digit
before the point or after it. -/
def spellsFinite (text : List Char) : Bool :=
  let (digits, rest) := fraction (text.dropWhile Char.isDigit)
  !(text.takeWhile Char.isDigit ++ digits).isEmpty && isExponent rest

/-- Whether a text is a word for what is no finite number. -/
def spellsWord (text : List Char) : Bool :=
  ["inf", "infinity", "nan"].contains (String.ofList (text.map Char.toLower))

def spellsNumber (text : List Char) : Bool :=
  spellsFinite (afterSign text) || spellsWord (afterSign text)

end HexChart.Decimal
