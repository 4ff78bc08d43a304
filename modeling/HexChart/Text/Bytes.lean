/-!
# Places in a text by bytes

A text is cut at places that are counted in the bytes of its encoding.  A place
inside of a character counts as the one after that character when characters are
dropped, and as the one before it when they are taken.
-/

namespace HexChart.Text

/-- The characters within a number of bytes at the front of a text. -/
def takeBytes : Nat → List Char → List Char
  | _, [] => []
  | count, character :: rest =>
    if count < character.utf8Size then []
    else character :: takeBytes (count - character.utf8Size) rest

/-- A text after a number of bytes at its front. -/
def dropBytes : Nat → List Char → List Char
  | _, [] => []
  | count, character :: rest =>
    if count = 0 then character :: rest else dropBytes (count - character.utf8Size) rest

end HexChart.Text
