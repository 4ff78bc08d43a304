import HexChart.Board
import HexChart.Grid.Word

/-!
# Boards in words of 64 bits

A machine reads a chart in words from end to end.  It sizes the grid, then goes through
the characters and places each mark as it meets it, and last it looks out from every
mark.  There are two ways in which it does not get to the end: a character outside the
alphabet, which it reports, and a slot number that no slot has, at which it stops.  The
earlier of the two decides.
-/

namespace HexChart

/-- Why a machine has no board for a text. -/
inductive Halt where
  /-- It met a character outside the alphabet. -/
  | stray (glyph : Chart.Glyph)
  /-- It came upon a slot number that no slot has. -/
  | stopped
  deriving DecidableEq, Repr

/-- Places the marks of some characters, which it numbers from the given tally on, and
lists them. -/
def Chart.placeGlyphs :
    List Glyph → Census → WordGrid → Except Halt (WordGrid × List Mark)
  | [], _, words => .ok (words, [])
  | glyph :: rest, tally, words =>
    match Symbol.classify glyph.character with
    | none => .error (.stray glyph)
    | some .blank => placeGlyphs rest tally words
    | some (.cell shape) =>
      let mark : Mark := ⟨shape, glyph.row, glyph.col, tally.get shape.kind⟩
      match words.place? (.ofNat mark.row) (.ofNat mark.col) mark.ref with
      | none => .error .stopped
      | some placed =>
        (placeGlyphs rest (tally.modify shape.kind (· + 1)) placed).map
          fun (words, marks) => (words, mark :: marks)

/-- The cell of a mark, with what it sees on the grid, or no cell if the machine stops. -/
def Cell.ofMarkWords? (words : WordGrid) (mark : Chart.Mark) : Option Cell :=
  (mark.shape.offsets.mapM (words.look? (.ofNat mark.row) (.ofNat mark.col))).map
    (⟨mark.shape, mark.row, mark.col, mark.index, ·⟩)

/-- Cells stored per kind, and the grid on which they stand, as a machine keeps it. -/
structure WordBoard where
  grid : WordGrid
  cells : PerKind (Array Cell)
  deriving DecidableEq, Repr

namespace WordBoard

/-- A board with the size of its grid in words. -/
def ofBoard (board : Board) : WordBoard :=
  ⟨.ofGrid board.grid, board.cells⟩

/-- The board of placed marks, or no board if the machine stops. -/
def ofMarks? (words : WordGrid) (marks : List Chart.Mark) : Option WordBoard :=
  (marks.mapM (Cell.ofMarkWords? words)).map fun cells =>
    ⟨words, PerKind.ofFn fun kind => (cells.filter fun cell => cell.kind = kind).toArray⟩

/-- The board of a chart, or why the machine has none. -/
def parse (text : List Char) : Except Halt WordBoard :=
  match Chart.placeGlyphs (Chart.glyphs text) (PerKind.ofFn fun _ => 0)
      (Chart.blankWords text) with
  | .error halt => .error halt
  | .ok (words, marks) =>
    match ofMarks? words marks with
    | none => .error .stopped
    | some board => .ok board

end WordBoard

end HexChart
