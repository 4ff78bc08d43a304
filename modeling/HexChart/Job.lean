import HexChart.Files.Access
import HexChart.Graph.Document
import HexChart.Graph.Header
import HexChart.Log

/-!
# Jobs

A job compiles one named chart.  It reads the chart from a file, reports what it
finds, and writes a header or a document.  It checks everything before it writes
anything, so a job that fails on its name, its chart or its links leaves all
files as they were.  Every access to files runs the same job (`runWith`); on a tree
in memory it is a function of the tree (`run_eq`).
-/

namespace HexChart

/-- What a job writes. -/
inductive Format where
  | header
  | json
  deriving DecidableEq, Repr

namespace Format

/-- The name of a format on the command line. -/
def name : Format → String
  | header => "header"
  | json => "json"

def ofName? (text : String) : Option Format :=
  [header, json].find? fun format => format.name = text

/-- How the names of files of a format end. -/
def suffix : Format → String
  | header => ".h"
  | json => ".json"

end Format

/-- One chart to compile. -/
structure Job where
  name : String
  chartsDir : String
  outDir : String
  format : Format
  /-- Whether one-way links are refused. -/
  strict : Bool
  deriving DecidableEq, Repr

/-- Why a job fails. -/
inductive Failure where
  | invalidName (name : String)
  | unreadable (path : String) (cause : FileError)
  | unrecognizedSymbol (glyph : Chart.Glyph)
  | oneWayLinks (count : Nat)
  | unwritable (path : String) (cause : FileError)
  deriving DecidableEq, Repr

namespace Failure

def message : Failure → String
  | invalidName name => "Board name " ++ Text.quote name ++ " is not a valid identifier"
  | unreadable path _ => "Cannot read board file " ++ path
  | unrecognizedSymbol glyph => glyph.complaint
  | oneWayLinks count => "Board has " ++ toString count ++ " one-way links"
  | unwritable path _ => "Cannot write " ++ path

/-- What lies behind a failure. -/
def cause? : Failure → Option FileError
  | unreadable _ cause | unwritable _ cause => some cause
  | _ => none

end Failure

def startsIdentifier (character : Char) : Bool :=
  character.isAlpha || character == '_'

def continuesIdentifier (character : Char) : Bool :=
  character.isAlphanum || character == '_'

/-- Whether a text is an identifier: an ASCII letter or an underscore, then
letters, digits and underscores. -/
def isIdentifier (text : String) : Bool :=
  match text.toList with
  | [] => false
  | first :: rest => startsIdentifier first && rest.all continuesIdentifier

/-- What a job leaves behind. -/
structure Outcome where
  /-- The path that was written, or why nothing was. -/
  result : Except Failure String
  events : List Event
  files : Files

namespace Job

/-- The file from which a job reads its chart. -/
def inputPath (job : Job) : String :=
  Path.join job.chartsDir (job.name ++ ".txt")

def outputPath (job : Job) : String :=
  Path.join job.outDir (job.name ++ job.format.suffix)

/-- The text that a job writes for a board. -/
def render (job : Job) (board : Board) : String :=
  match job.format with
  | .header => (board.graph job.name).header
  | .json => (board.graph job.name).document

def decodeText (bytes : ByteArray) : Except FileError String :=
  match String.fromUTF8? bytes with
  | some text => .ok text
  | none => .error .notText

/-- The board of the bytes of a chart, with the events of reading it. -/
def load (job : Job) (input : Except FileError ByteArray) :
    List Event × Except Failure Board :=
  match input.bind decodeText with
  | .error cause => ([], .error (.unreadable job.inputPath cause))
  | .ok text =>
    let chart := text.toList
    let opening := [.read text.utf8ByteSize job.inputPath,
      .sized (Chart.height chart) (Chart.width chart)]
    match Chart.Sketch.ofText chart with
    | .error glyph => (opening, .error (.unrecognizedSymbol glyph))
    | .ok sketch =>
      (opening ++ [.classified sketch.census, .resolved sketch.sightings],
        .ok (Board.ofSketch sketch))

/-- The text that a job writes for the bytes of its chart, with the events of
making it. -/
def compile (job : Job) (input : Except FileError ByteArray) :
    List Event × Except Failure String :=
  match job.load input with
  | (events, .error failure) => (events, .error failure)
  | (events, .ok board) =>
    let oneWay := board.oneWayLinks
    let events := events ++
      .loaded job.inputPath board.census board.linkCount :: oneWay.map .oneWay
    if job.strict && !oneWay.isEmpty then
      (events, .error (.oneWayLinks oneWay.length))
    else
      (events, .ok (job.render board))

section Running

variable {m : Type → Type} [Monad m] (access : Access m)

/-- Puts the text of a job into its output file, in a directory that is made if
it is missing. -/
def deliverWith (job : Job) (contents : String) : m (Except Failure String) := do
  match ← access.makeDirectories job.outDir with
  | .error cause => return .error (.unwritable job.outputPath cause)
  | .ok () =>
    match ← access.write job.outputPath contents.toUTF8 with
    | .error cause => return .error (.unwritable job.outputPath cause)
    | .ok () => return .ok job.outputPath

/-- Runs a job: the path that was written or why nothing was, and the events. -/
def runWith (job : Job) : m (Except Failure String × List Event) := do
  if isIdentifier job.name then
    match job.compile (← access.read job.inputPath) with
    | (events, .error failure) => return (.error failure, events)
    | (events, .ok contents) => return (← job.deliverWith access contents, events)
  else
    return (.error (.invalidName job.name), [])

end Running

/-- Puts the text of a job into its file in a tree of files. -/
def deliver (job : Job) (contents : String) (files : Files) : Files × Except Failure String :=
  let (result, files) := job.deliverWith Files.access contents files
  (files, result)

/-- Runs a job on a tree of files. -/
def run (job : Job) (files : Files) : Outcome :=
  let ((result, events), files) := job.runWith Files.access files
  ⟨result, events, files⟩

theorem deliver_eq (job : Job) (contents : String) (files : Files) :
    job.deliver contents files =
      match files.makeDirectories job.outDir with
      | (files, some cause) => (files, .error (.unwritable job.outputPath cause))
      | (files, none) =>
        match files.write job.outputPath contents.toUTF8 with
        | .error cause => (files, .error (.unwritable job.outputPath cause))
        | .ok files => (files, .ok job.outputPath) := by
  simp only [deliver, deliverWith, Files.access, bind, StateT.bind]
  rcases files.makeDirectories job.outDir with ⟨made, _ | cause⟩
  · cases hwrite : made.write job.outputPath contents.toUTF8 <;>
      simp only [bind, StateT.bind, hwrite] <;> rfl
  · rfl

theorem run_eq (job : Job) (files : Files) :
    job.run files =
      if isIdentifier job.name then
        match job.compile (files.read job.inputPath) with
        | (events, .error failure) => ⟨.error failure, events, files⟩
        | (events, .ok contents) =>
          let (files, result) := job.deliver contents files
          ⟨result, events, files⟩
      else
        ⟨.error (.invalidName job.name), [], files⟩ := by
  unfold run runWith
  by_cases hname : isIdentifier job.name = true
  · simp only [if_pos hname, bind, StateT.bind, Files.access]
    rcases job.compile (files.read job.inputPath) with ⟨events, failure | contents⟩ <;> rfl
  · simp only [if_neg hname]
    rfl

end Job

end HexChart
