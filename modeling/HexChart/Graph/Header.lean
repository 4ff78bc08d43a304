import HexChart.Graph

/-!
# Headers

A header is generated code: a class that builds the graph of a board when it is
constructed.  It states the counts first and then adds the links one by one.
-/

namespace HexChart.Graph

def headerOpening (graph : Graph) : List String :=
  [ "// Generated by boardgen. Do not edit.",
    "#pragma once",
    "",
    "#include \"../Board.h\"",
    "#include \"../Graph.h\"",
    "",
    "namespace Graph \x7b",
    "",
    "class " ++ graph.name ++ "Board : public Board \x7b",
    "public:",
    "    " ++ graph.name ++ "Board()",
    "    \x7b",
    "        m_graph = new Graph(",
    "            " ++ toString graph.census.road ++ ", // roads",
    "            " ++ toString graph.census.junction ++ ", // junctions",
    "            " ++ toString graph.census.tile ++ ", // hexes",
    "            " ++ toString graph.census.flippable ++ ", // flippables",
    "            " ++ toString graph.census.ocean ++ " // oceans",
    "        );",
    "" ]

def headerClosing : List String :=
  [ "    \x7d",
    "",
    "private:",
    "    Graph* m_graph;",
    "\x7d;",
    "",
    "\x7d // namespace Graph" ]

/-- The lines of the header of a graph: one statement for each link. -/
def headerLines (graph : Graph) : List String :=
  graph.headerOpening ++ graph.links.map ("        " ++ ·.statement) ++ headerClosing

def header (graph : Graph) : String :=
  String.join (graph.headerLines.map (· ++ "\n"))

end HexChart.Graph
