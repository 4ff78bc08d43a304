/-!
# Lines of a chart

A chart is cut after each line break, and each line keeps its break.  The
height of a chart is the number of its lines and the width is the length of the
longest one, so a break counts as a column.
-/

namespace HexChart.Chart

/-- The lines of a text, each with the break that ends it. -/
def lines : List Char → List (List Char)
  | [] => []
  | character :: rest =>
    if character = '\n' then
      [character] :: lines rest
    else
      match lines rest with
      | [] => [[character]]
      | line :: others => (character :: line) :: others

def height (text : List Char) : Nat :=
  (lines text).length

/-- The length of the longest line, or zero when there is none. -/
def width (text : List Char) : Nat :=
  (lines text).foldl (fun longest line => max longest line.length) 0

/-- Nothing is lost or added by cutting a text into lines. -/
theorem flatten_lines (text : List Char) : (lines text).flatten = text := by
  induction text with
  | nil => rfl
  | cons character rest ih =>
    by_cases hbreak : character = '\n'
    · simp [lines, hbreak, ih]
    · cases hlines : lines rest with
      | nil => simp_all [lines]
      | cons line others => simp_all [lines]

end HexChart.Chart
