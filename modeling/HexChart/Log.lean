import HexChart.Link
import HexChart.Text.Control

/-!
# Log events

What a run reports while it works.  An event knows its level, the part of the
program that it comes from, its words and its counts.
-/

namespace HexChart

/-- How much an event matters. -/
inductive Level where
  | error
  | warn
  | info
  | debug
  | trace
  deriving DecidableEq, Repr

namespace Level

def name : Level → String
  | error => "ERROR"
  | warn => "WARN"
  | info => "INFO"
  | debug => "DEBUG"
  | trace => "TRACE"

/-- How much must be wanted for an event of this level to be printed.  Zero
wants nothing. -/
def verbosity : Level → Nat
  | error => 1
  | warn => 2
  | info => 3
  | debug => 4
  | trace => 5

end Level

/-- Something that happens during a run. -/
inductive Event where
  | read (size : Nat) (path : String)
  | sized (height width : Nat)
  | classified (census : Census)
  | resolved (links : Nat)
  | loaded (path : String) (census : Census) (links : Nat)
  | oneWay (link : Link)
  | wrote (path : String)
  deriving DecidableEq, Repr

namespace Event

def level : Event → Level
  | read .. | sized .. | classified .. | resolved .. => .debug
  | loaded .. | wrote .. => .info
  | oneWay .. => .warn

/-- The part of the program that an event comes from. -/
def origin : Event → String
  | read .. | sized .. | classified .. | resolved .. => "boardgen_core::board"
  | loaded .. | oneWay .. => "boardgen::generate"
  | wrote .. => "boardgen"

def message : Event → String
  | read size path => "Read " ++ toString size ++ " bytes from " ++ path
  | sized height width =>
    "Grid is " ++ toString height ++ " rows by " ++ toString width ++ " columns"
  | classified _ => "Classified cells"
  | resolved links => "Resolved " ++ toString links ++ " links"
  | loaded path _ _ => "Loaded " ++ path
  | oneWay link => link.complaint
  | wrote path => "Wrote " ++ path

/-- The counts of a census under the names that a log gives them. -/
def censusFields (census : Census) : List (String × Nat) :=
  [("roads", census.road), ("junctions", census.junction), ("tiles", census.tile),
    ("flippables", census.flippable), ("oceans", census.ocean)]

def fields : Event → List (String × Nat)
  | classified census => censusFields census
  | loaded _ census links => censusFields census ++ [("links", links)]
  | _ => []

/-- The names under which an event has something to say: its message and its
counts. -/
def names (event : Event) : List String :=
  "message" :: event.fields.map fun (name, _) => name

def line (event : Event) : String :=
  String.join
    (event.level.name :: " " :: event.origin :: ": " :: Text.spellControls event.message ::
      event.fields.map fun (name, value) => " " ++ name ++ "=" ++ toString value)

end Event

end HexChart
