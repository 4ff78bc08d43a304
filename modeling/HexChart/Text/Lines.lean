import HexChart.Text.Split

/-!
# Printed lines

What is printed reaches its readers as lines.  A line break ends a line, and a
carriage return right before it belongs to the break.
-/

namespace HexChart.Text

/-- A line without the carriage return that may end it. -/
def withoutReturn (line : List Char) : List Char :=
  match line.reverse with
  | '\r' :: rest => rest.reverse
  | _ => line

/-- The lines of a text that is printed with a line break after it. -/
def printedLines (text : String) : List String :=
  (splitAt '\n' text.toList).map fun line => String.ofList (withoutReturn line)

end HexChart.Text
