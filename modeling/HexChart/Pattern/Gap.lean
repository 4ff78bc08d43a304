import HexChart.Text.Category

/-!
# Gaps in a pattern

A pattern may be spaced out: then blanks and comments between its parts are gaps
and mean nothing.
-/

namespace HexChart.Pattern

/-- Passes over blanks and comments.  A comment begins with a number sign and
ends with its line. -/
def skipGap (comment : Bool) : List Char → List Char
  | [] => []
  | character :: rest =>
    if comment then skipGap (character != '\n') rest
    else if Text.isBlank character then skipGap false rest
    else if character = '#' then skipGap true rest
    else character :: rest

/-- A text after the gap at its front.  Only a pattern that is spaced out has
gaps. -/
def afterGap (spaced : Bool) (text : List Char) : List Char :=
  if spaced then skipGap false text else text

/-- The character that comes next when a reader looks ahead without reading.  It
sees through blanks and through a number sign, but not through the comment that
the number sign begins. -/
def ahead (spaced : Bool) (text : List Char) : Option Char :=
  if spaced then
    match text.dropWhile Text.isBlank with
    | '#' :: comment => (comment.dropWhile Text.isBlank).head?
    | other => other.head?
  else
    text.head?

end HexChart.Pattern
