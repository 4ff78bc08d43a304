import HexChart.Graph
import HexChart.Json.Form

/-!
# Documents

The values of the library as JSON: how each type is written and read, and the
document that describes a whole graph.
-/

namespace HexChart

open HexChart.Json

def Direction.form : Form Direction :=
  .ofNames Direction.all Direction.name Direction.ofName?

def Kind.form : Form Kind :=
  .ofNames Kind.all Kind.name Kind.ofName?

def Slant.form : Form Slant :=
  .ofNames Slant.all Slant.name Slant.ofName?

/-- References are records of a kind and a number. -/
def CellRef.form : Form CellRef where
  reader := .record "CellRef" [("kind", Kind.form.reader), ("index", .count)]
  toDatum ref := .record [("kind", Kind.form.toDatum ref.kind), ("index", .count ref.index)]
  ofDatum?
    | .record [(_, kind), (_, .count index)] => do
      return ⟨← Kind.form.ofDatum? kind, index⟩
    | _ => none

/-- Counts are records with one number for each kind. -/
def Census.form : Form Census where
  reader := .record "KindCounts"
    [("roads", .count), ("junctions", .count), ("tiles", .count), ("flippables", .count),
      ("oceans", .count)]
  toDatum census := .record
    [("roads", .count census.road), ("junctions", .count census.junction),
      ("tiles", .count census.tile), ("flippables", .count census.flippable),
      ("oceans", .count census.ocean)]
  ofDatum?
    | .record [(_, .count road), (_, .count junction), (_, .count tile),
        (_, .count flippable), (_, .count ocean)] =>
      some ⟨road, junction, tile, flippable, ocean⟩
    | _ => none

/-- Links are records of their two ends and their direction, under the name of
the list in which they stand. -/
def Link.form (name : String) : Form Link where
  reader := .record name
    [("from", CellRef.form.reader), ("direction", Direction.form.reader),
      ("to", CellRef.form.reader)]
  toDatum link := .record
    [("from", CellRef.form.toDatum link.source),
      ("direction", Direction.form.toDatum link.direction),
      ("to", CellRef.form.toDatum link.target)]
  ofDatum?
    | .record [(_, source), (_, direction), (_, target)] => do
      return ⟨← CellRef.form.ofDatum? source, ← Direction.form.ofDatum? direction,
        ← CellRef.form.ofDatum? target⟩
    | _ => none

def Link.edgeForm : Form Link :=
  Link.form "EdgeStatement"

def Link.oneWayForm : Form Link :=
  Link.form "OneWayLink"

/-- Graphs are records of their name, their counts and their links. -/
def Graph.form : Form Graph where
  reader := .record "BoardGraph"
    [("name", .text), ("counts", Census.form.reader), ("edges", .list Link.edgeForm.reader)]
  toDatum graph := .record
    [("name", .text graph.name), ("counts", Census.form.toDatum graph.census),
      ("edges", .list (graph.links.map Link.edgeForm.toDatum))]
  ofDatum?
    | .record [(_, .text name), (_, counts), (_, .list edges)] => do
      return ⟨name, ← Census.form.ofDatum? counts, ← edges.mapM Link.edgeForm.ofDatum?⟩
    | _ => none

/-- The document of a graph: its text spread over lines, with a line break at
the end. -/
def Graph.document (graph : Graph) : String :=
  Graph.form.encode .pretty graph ++ "\n"

end HexChart
