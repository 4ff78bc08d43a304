/-!
# Clock directions

A hex is drawn with a corner on top, so its neighbors lie at six even hours of
a clock face.  This module holds the six directions in clockwise order and the
turn to the far side of the face.
-/

namespace HexChart

/-- One of the six even hours around a hex. -/
inductive Direction where
  | clock12
  | clock2
  | clock4
  | clock6
  | clock8
  | clock10
  deriving DecidableEq, Repr, Inhabited

namespace Direction

/-- Every direction, clockwise from twelve o'clock. -/
def all : List Direction :=
  [clock12, clock2, clock4, clock6, clock8, clock10]

/-- The direction that points back. -/
def opposite : Direction → Direction
  | clock12 => clock6
  | clock2 => clock8
  | clock4 => clock10
  | clock6 => clock12
  | clock8 => clock2
  | clock10 => clock4

def hour : Direction → Nat
  | clock12 => 12
  | clock2 => 2
  | clock4 => 4
  | clock6 => 6
  | clock8 => 8
  | clock10 => 10

/-- The place of a direction in `all`, which is also its rank in sorting. -/
def position : Direction → Nat
  | clock12 => 0
  | clock2 => 1
  | clock4 => 2
  | clock6 => 3
  | clock8 => 4
  | clock10 => 5

def name : Direction → String
  | clock12 => "Clock12"
  | clock2 => "Clock2"
  | clock4 => "Clock4"
  | clock6 => "Clock6"
  | clock8 => "Clock8"
  | clock10 => "Clock10"

/-- The constant that stands for a direction in generated code. -/
def constant (direction : Direction) : String :=
  "Direction::" ++ direction.name

def ofName? (text : String) : Option Direction :=
  all.find? fun direction => direction.name = text

def le (left right : Direction) : Bool :=
  left.position ≤ right.position

theorem mem_all (direction : Direction) : direction ∈ all := by
  cases direction <;> decide

@[simp]
theorem opposite_opposite (direction : Direction) :
    direction.opposite.opposite = direction := by
  cases direction <;> rfl

theorem ofName?_name (direction : Direction) :
    ofName? direction.name = some direction := by
  cases direction <;> rfl

end Direction

end HexChart
