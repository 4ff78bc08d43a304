import HexChart.Kind
import HexChart.Offset

/-!
# Shapes and the chart alphabet

Seven characters of a chart stand for cells.  The shape of a cell is its kind
together with the slant of a road, and it decides at which offsets the cell
looks for neighbors.
-/

namespace HexChart

/-- Which way a road is drawn. -/
inductive Slant where
  /-- `|`, between the junctions above and below. -/
  | vertical
  /-- `/`, between upper right and lower left. -/
  | forward
  /-- `\`, between upper left and lower right. -/
  | backward
  deriving DecidableEq, Repr, Inhabited

namespace Slant

def all : List Slant :=
  [vertical, forward, backward]

def name : Slant → String
  | vertical => "vertical"
  | forward => "forward"
  | backward => "backward"

def ofName? (text : String) : Option Slant :=
  all.find? fun slant => slant.name = text

/-- The two offsets at which a road of this slant looks. -/
def offsets : Slant → List Offset
  | vertical => Offset.nearVertical
  | forward => Offset.nearForward
  | backward => Offset.nearBackward

theorem ofName?_name (slant : Slant) : ofName? slant.name = some slant := by
  cases slant <;> rfl

end Slant

/-- What a drawn cell looks like. -/
inductive Shape where
  | road (slant : Slant)
  | junction
  | tile
  | flippable
  | ocean
  deriving DecidableEq, Repr, Inhabited

namespace Shape

def kind : Shape → Kind
  | road _ => .road
  | junction => .junction
  | tile => .tile
  | flippable => .flippable
  | ocean => .ocean

/-- The offsets at which a cell of this shape looks for neighbors, in the
order in which its links are listed.  Junctions look both ways: out to the
hexes that they touch, then along the roads that meet in them. -/
def offsets : Shape → List Offset
  | road slant => slant.offsets
  | junction => Offset.far ++ Offset.near
  | tile => Offset.far
  | flippable => Offset.far
  | ocean => Offset.far

/-- The character that draws a shape. -/
def symbol : Shape → Char
  | road .vertical => '|'
  | road .forward => '/'
  | road .backward => '\\'
  | junction => '.'
  | tile => 'h'
  | flippable => '?'
  | ocean => 'o'

end Shape

/-- What one character of a chart means. -/
inductive Symbol where
  /-- Nothing is drawn here. -/
  | blank
  | cell (shape : Shape)
  deriving DecidableEq, Repr

namespace Symbol

/-- The five characters that leave a place empty. -/
def isBlank (character : Char) : Bool :=
  character == ' ' || character == '\t' || character == '\n' ||
    character == '\r' || character == '\x0c'

/-- The meaning of a character, or nothing for one outside the alphabet. -/
def classify (character : Char) : Option Symbol :=
  if isBlank character then some .blank
  else match character with
    | '.' => some (.cell .junction)
    | 'o' => some (.cell .ocean)
    | 'h' => some (.cell .tile)
    | '?' => some (.cell .flippable)
    | '|' => some (.cell (.road .vertical))
    | '/' => some (.cell (.road .forward))
    | '\\' => some (.cell (.road .backward))
    | _ => none

theorem classify_symbol (shape : Shape) :
    classify shape.symbol = some (.cell shape) := by
  rcases shape with ⟨_ | _ | _⟩ | _ | _ | _ | _ <;> rfl

end Symbol

end HexChart
