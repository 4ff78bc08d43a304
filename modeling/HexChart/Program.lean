import HexChart.CommandLine
import HexChart.Log.Filter
import HexChart.Text.Lines

/-!
# The program

A run of the whole program: it reads its arguments, runs the job that they ask
for, and reports how that went by its exit code and on its two output streams.
The log and the error messages share one stream.  A path may hold line breaks,
so a notice on that stream may take several lines; of an event only the first
one is recognized as a line of the log.
-/

namespace HexChart

/-- What is printed at one time on the stream of the log and the errors. -/
inductive Notice where
  | entry (event : Event)
  | words (text : String)
  deriving DecidableEq, Repr

namespace Notice

def text : Notice → String
  | entry event => event.line
  | words text => text

/-- The line that a notice adds to the log. -/
def logLine? : Notice → Option String
  | entry event => (Text.printedLines event.line).head?
  | words _ => none

/-- The lines of a notice that are not lines of the log. -/
def otherLines : Notice → List String
  | entry event => (Text.printedLines event.line).tail
  | words text => Text.printedLines text

end Notice

/-- What a run of the program shows and leaves behind. -/
structure Report where
  exitCode : Nat
  /-- What is printed. -/
  output : String
  /-- What is printed on the stream of the log and the errors, in order. -/
  notices : List Notice
  files : Files

namespace Report

def log (report : Report) : List String :=
  report.notices.filterMap Notice.logLine?

def errors (report : Report) : List String :=
  report.notices.flatMap Notice.otherLines

end Report

namespace Program

def versionLine : String := "boardgen 0.1.0"

/-- The text that tells how the program is used. -/
def helpText : String :=
  "Compile an ASCII hex board into engine graph construction code\n\n" ++
  "Usage: boardgen [OPTIONS] <NAME>\n\n" ++
  "Arguments:\n" ++
  "  <NAME>  Board name (an identifier); reads <NAME>.txt and generates <NAME>Board\n\n" ++
  "Options:\n" ++
  "      --boards-dir <BOARDS_DIR>  Directory holding board texts [env: BOARDGEN_BOARDS_DIR=] " ++
  "[default: boards]\n" ++
  "      --out-dir <OUT_DIR>        Directory generated files are written to " ++
  "[env: BOARDGEN_OUT_DIR=] [default: generated]\n" ++
  "      --format <FORMAT>          Output format [default: header] " ++
  "[possible values: header, json]\n" ++
  "      --strict                   Fail when a link cannot be followed back\n" ++
  "  -h, --help                     Print help\n" ++
  "  -V, --version                  Print version\n"

/-- The filter of the log, as it was asked for: only informative events unless
something else was. -/
def filterText (environment : Environment) : String :=
  environment.logFilter.getD "info"

/-- What is said about a filter that cannot be read. -/
def complaints (environment : Environment) : List Notice :=
  (LogFilter.complaints (filterText environment)).map .words

def logged (environment : Environment) (events : List Event) : List Notice :=
  let filter := LogFilter.ofText (filterText environment)
  (events.filter filter.allows).map .entry

/-- The text that reports a failure, and below it what lies behind it. -/
def failureText (failure : Failure) : String :=
  "Error: " ++ failure.message ++
    match failure.cause? with
    | some cause => "\n\nCaused by:\n    " ++ cause.message
    | none => ""

def failureNotices : Except Failure String → List Notice
  | .ok _ => []
  | .error failure => [.words (failureText failure)]

def closing : Except Failure String → List Event
  | .ok path => [.wrote path]
  | .error _ => []

def reportJob (environment : Environment) (outcome : Outcome) : Report where
  exitCode := match outcome.result with
    | .ok _ => 0
    | .error _ => 1
  output := ""
  notices := complaints environment ++
    logged environment (outcome.events ++ closing outcome.result) ++
    failureNotices outcome.result
  files := outcome.files

/-- The text that reports refused arguments.  The stream of errors is not taken
for a terminal, so control sequences are left out. -/
def usageText (fault : UsageError) : String :=
  Text.withoutControls ("error: " ++ fault.message)

/-- Runs the program on a tree of files. -/
def run (environment : Environment) (arguments : List String) (files : Files) : Report :=
  match CommandLine.parse environment arguments with
  | .error fault => ⟨2, "", complaints environment ++ [.words (usageText fault)], files⟩
  | .ok .version => ⟨0, versionLine ++ "\n", complaints environment, files⟩
  | .ok .help => ⟨0, helpText, complaints environment, files⟩
  | .ok (.run job) => reportJob environment (job.run files)

end Program

end HexChart
