import HexChart.Job

/-!
# The command line

The arguments of the program name one chart and settle the options of its job.
They are read from left to right.  An option may stand with its value in one
argument or before it; it is settled when the next known argument comes, so of
two faults the one that is settled first is reported.
-/

namespace HexChart

/-- An option that takes a value. -/
inductive Setting where
  | chartsDir
  | outDir
  | format
  deriving DecidableEq, Repr

namespace Setting

def all : List Setting :=
  [chartsDir, outDir, format]

/-- The name of an option after its two dashes. -/
def name : Setting → String
  | chartsDir => "boards-dir"
  | outDir => "out-dir"
  | format => "format"

def label : Setting → String
  | chartsDir => "--boards-dir <BOARDS_DIR>"
  | outDir => "--out-dir <OUT_DIR>"
  | format => "--format <FORMAT>"

end Setting

/-- An option that takes no value. -/
inductive Flag where
  | strict
  | version
  | help
  deriving DecidableEq, Repr

namespace Flag

def all : List Flag :=
  [strict, version, help]

/-- The name of a flag after its two dashes. -/
def name : Flag → String
  | strict => "strict"
  | version => "version"
  | help => "help"

def ofLetter? : Char → Option Flag
  | 'V' => some version
  | 'h' => some help
  | _ => none

end Flag

/-- Why arguments are refused. -/
inductive UsageError where
  | unexpectedArgument (argument : String)
  | unexpectedValue (value : String) (flag : Flag)
  | missingValue (setting : Setting)
  | repeatedSetting (setting : Setting)
  | repeatedFlag (flag : Flag)
  | invalidValue (value : String) (setting : Setting)
  | missingName
  deriving DecidableEq, Repr

/-- Text of the user, in the color in which a terminal shows it. -/
def marked (text : String) : String :=
  "\x1b[33m" ++ text ++ "\x1b[0m"

/-- The line that reports refused arguments, as a terminal takes it. -/
def UsageError.message : UsageError → String
  | unexpectedArgument argument => "unexpected argument '" ++ marked argument ++ "' found"
  | unexpectedValue value flag =>
    "unexpected value '" ++ marked value ++ "' for '--" ++ flag.name ++
      "' found; no more were expected"
  | missingValue setting =>
    "a value is required for '" ++ setting.label ++ "' but none was supplied"
  | repeatedSetting setting =>
    "the argument '" ++ setting.label ++ "' cannot be used multiple times"
  | repeatedFlag flag =>
    "the argument '--" ++ flag.name ++ "' cannot be used multiple times"
  | invalidValue value setting =>
    "invalid value '" ++ marked value ++ "' for '" ++ setting.label ++ "'"
  | missingName => "the following required arguments were not provided:"

/-- What the surroundings of the program settle, as far as they settle it. -/
structure Environment where
  chartsDir : Option String
  outDir : Option String
  logFilter : Option String
  deriving DecidableEq, Repr

/-- What the program is asked to do. -/
inductive Request where
  | run (job : Job)
  | version
  | help
  deriving DecidableEq, Repr

namespace CommandLine

/-- What the arguments have settled so far. -/
structure Draft where
  name : Option String
  chartsDir : Option String
  outDir : Option String
  format : Option Format
  strict : Bool
  deriving DecidableEq, Repr

def Draft.blank : Draft :=
  ⟨none, none, none, none, false⟩

/-- Accepts the value of a directory, which cannot be empty. -/
def directoryValue (setting : Setting) (value : String) : Except UsageError String :=
  if value = "" then .error (.missingValue setting) else .ok value

def formatValue (value : String) : Except UsageError Format :=
  if value = "" then .error (.missingValue .format)
  else match Format.ofName? value with
    | some format => .ok format
    | none => .error (.invalidValue value .format)

def Draft.assign (draft : Draft) (setting : Setting) (value : String) :
    Except UsageError Draft :=
  match setting with
  | .chartsDir =>
    if draft.chartsDir.isSome then .error (.repeatedSetting setting)
    else (directoryValue setting value).map fun path => { draft with chartsDir := some path }
  | .outDir =>
    if draft.outDir.isSome then .error (.repeatedSetting setting)
    else (directoryValue setting value).map fun path => { draft with outDir := some path }
  | .format =>
    if draft.format.isSome then .error (.repeatedSetting setting)
    else (formatValue value).map fun format => { draft with format := some format }

/-- An option that stands open, with its value once that has been read. -/
abbrev Pending := Option (Setting × Option String)

/-- Settles the option that stands open, if there is one. -/
def Draft.settle (draft : Draft) : Pending → Except UsageError Draft
  | none => .ok draft
  | some (setting, none) => .error (.missingValue setting)
  | some (setting, some value) => draft.assign setting value

/-- What an argument looks like. -/
inductive Argument where
  /-- Two dashes alone end the options. -/
  | separator
  /-- Two dashes, a name, and perhaps a value after an equals sign. -/
  | long (name : String) (value : Option String)
  /-- One dash and a letter. -/
  | short (letter : Char)
  /-- Anything else. -/
  | plain
  deriving DecidableEq, Repr

def Argument.ofText (text : String) : Argument :=
  match text.toList with
  | ['-', '-'] => .separator
  | '-' :: '-' :: rest =>
    let name := String.ofList (rest.takeWhile (· != '='))
    match rest.dropWhile (· != '=') with
    | [] => .long name none
    | _ :: value => .long name (some (String.ofList value))
  | '-' :: letter :: _ => .short letter
  | _ => .plain

/-- What reading the arguments ends in: a draft, or a flag that asks for nothing
but its own answer. -/
abbrev Reading := Sum Flag Draft

/-- Takes an argument as the name of the chart, of which there is one. -/
def Draft.takeName (draft : Draft) (pending : Pending) (argument : String) :
    Except UsageError Draft :=
  if draft.name.isSome then .error (.unexpectedArgument argument)
  else (draft.settle pending).map fun draft => { draft with name := some argument }

/-- Reads the arguments after the end of the options. -/
def readNames (draft : Draft) (pending : Pending) : List String → Except UsageError Draft
  | [] => draft.settle pending
  | argument :: rest => do
    let draft ← draft.takeName pending argument
    readNames draft none rest

/-- Takes a flag.  An answer is given to a flag other than the strict one. -/
def Draft.takeFlag (draft : Draft) (pending : Pending) (flag : Flag) :
    Except UsageError Reading := do
  let draft ← draft.settle pending
  match flag with
  | .strict =>
    if draft.strict then .error (.repeatedFlag .strict)
    else return .inr { draft with strict := true }
  | other => return .inl other

def readArguments (draft : Draft) (pending : Pending) :
    List String → Except UsageError Reading
  | [] => (draft.settle pending).map .inr
  | argument :: rest =>
    match Argument.ofText argument with
    | .separator => (readNames draft pending rest).map .inr
    | .long name value =>
      match Flag.all.find? (·.name = name), Setting.all.find? (·.name = name), value with
      | some flag, _, some value => .error (.unexpectedValue value flag)
      | some flag, _, none => do
        match ← draft.takeFlag pending flag with
        | .inl flag => return .inl flag
        | .inr draft => readArguments draft none rest
      | none, some setting, some value => do
        let draft ← draft.settle pending
        let draft ← draft.assign setting value
        readArguments draft none rest
      | none, some setting, none => do
        let draft ← draft.settle pending
        readArguments draft (some (setting, none)) rest
      | none, none, _ => .error (.unexpectedArgument ("--" ++ name))
    | .short letter =>
      match Flag.ofLetter? letter with
      | none => .error (.unexpectedArgument (String.ofList ['-', letter]))
      | some flag => do
        match ← draft.takeFlag pending flag with
        | .inl flag => return .inl flag
        | .inr draft => readArguments draft none rest
    | .plain =>
      match pending with
      | some (setting, none) => readArguments draft (some (setting, some argument)) rest
      | _ => do
        let draft ← draft.takeName pending argument
        readArguments draft none rest

/-- A directory: the argument if there is one, else what the surroundings say,
else the usual one. -/
def chooseDirectory (setting : Setting) (argument surroundings : Option String)
    (usual : String) : Except UsageError String :=
  match argument, surroundings with
  | some path, _ => .ok path
  | none, some path => directoryValue setting path
  | none, none => .ok usual

def Draft.job (draft : Draft) (environment : Environment) : Except UsageError Job := do
  let chartsDir ← chooseDirectory .chartsDir draft.chartsDir environment.chartsDir "boards"
  let outDir ← chooseDirectory .outDir draft.outDir environment.outDir "generated"
  match draft.name with
  | none => .error .missingName
  | some name => return ⟨name, chartsDir, outDir, draft.format.getD .header, draft.strict⟩

/-- What the arguments of the program ask for. -/
def parse (environment : Environment) (arguments : List String) :
    Except UsageError Request := do
  match ← readArguments .blank none arguments with
  | .inl .version => return .version
  | .inl _ => return .help
  | .inr draft => return .run (← draft.job environment)

end CommandLine

end HexChart
