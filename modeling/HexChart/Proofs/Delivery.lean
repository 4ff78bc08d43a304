import HexChart.Job
import HexChart.Proofs.Audit
import HexChart.Proofs.Naming

/-!
# What a job changes

A job checks its name, its chart and its links before it touches any file, so a job
that is refused leaves everything as it was.  After that it makes its directory and
writes one file: the name of the job is an identifier, so the file stands directly in
the directory and is never the chart (`ends_run`).
-/

namespace HexChart

/-! ## Names of files -/

/-- A letter of the ASCII alphabet. -/
def IsLetter (character : Char) : Prop :=
  ('a' ≤ character ∧ character ≤ 'z') ∨ ('A' ≤ character ∧ character ≤ 'Z')

def IsDigit (character : Char) : Prop :=
  '0' ≤ character ∧ character ≤ '9'

/-- A letter or an underscore, followed by letters, digits and underscores. -/
def IsIdentifier (text : String) : Prop :=
  ∃ first rest, text.toList = first :: rest ∧ (IsLetter first ∨ first = '_') ∧
    ∀ character ∈ rest, IsLetter character ∨ IsDigit character ∨ character = '_'

theorem isAlpha_iff (character : Char) : character.isAlpha = true ↔ IsLetter character := by
  have hsplit : character.isAlpha = (character.isUpper || character.isLower) := rfl
  have hupper : character.isUpper = true ↔ 'A' ≤ character ∧ character ≤ 'Z' := by
    delta Char.isUpper
    simp [Char.le_def]
  have hlower : character.isLower = true ↔ 'a' ≤ character ∧ character ≤ 'z' := by
    delta Char.isLower
    simp [Char.le_def]
  rw [hsplit, Bool.or_eq_true, hupper, hlower, IsLetter]
  exact or_comm

theorem isDigit_iff (character : Char) : character.isDigit = true ↔ IsDigit character := by
  simp [Char.isDigit, IsDigit, Char.le_def]

theorem isIdentifier_iff (text : String) : isIdentifier text = true ↔ IsIdentifier text := by
  unfold isIdentifier IsIdentifier
  cases text.toList with
  | nil => simp
  | cons first rest =>
    simp [startsIdentifier, continuesIdentifier, Char.isAlphanum, isAlpha_iff, isDigit_iff,
      or_assoc]

/-- No character of an identifier separates segments of a path or marks a relative one. -/
theorem plain_of_isIdentifier {text : String} (hname : IsIdentifier text) :
    '/' ∉ text.toList ∧ text.toList.head? ≠ none ∧ text.toList.head? ≠ some '.' := by
  obtain ⟨first, rest, htext, hfirst, hrest⟩ := hname
  have hslash : ¬IsLetter '/' ∧ ¬IsDigit '/' ∧ ¬IsLetter '.' := by
    unfold IsLetter IsDigit
    decide
  rw [htext]
  refine ⟨?_, by simp, ?_⟩
  · intro hmem
    rcases List.mem_cons.mp hmem with rfl | hmem
    · simp [hslash] at hfirst
    · simpa [hslash] using hrest '/' hmem
  · intro hdot
    simp only [List.head?_cons, Option.some.injEq] at hdot
    subst hdot
    simp [hslash] at hfirst

/-- An identifier with a suffix names an entry of a directory. -/
theorem isName_append {name : String} (hname : IsIdentifier name) (suffix : String) :
    Path.isName (name ++ suffix) = true := by
  obtain ⟨_, hnone, hdot⟩ := plain_of_isIdentifier hname
  have hhead : (name ++ suffix).toList.head? = name.toList.head? := by
    rw [String.toList_append, List.head?_append_of_ne_nil]
    simpa using hnone
  have hne : ∀ other : String, other.toList.head? = none ∨ other.toList.head? = some '.' →
      name ++ suffix ≠ other := by
    rintro _ hother rfl
    rw [hhead] at hother
    exact hother.elim hnone hdot
  simp only [Path.isName, Bool.and_eq_true, bne_iff_ne]
  exact ⟨⟨hne "" (.inl rfl), hne "." (.inr rfl)⟩, hne ".." (.inr rfl)⟩

theorem slash_not_mem_append {name suffix : String} (hname : IsIdentifier name)
    (hsuffix : '/' ∉ suffix.toList) : '/' ∉ (name ++ suffix).toList := by
  rw [String.toList_append, List.mem_append, not_or]
  exact ⟨(plain_of_isIdentifier hname).1, hsuffix⟩

namespace Job

theorem slash_not_mem_suffix (format : Format) : '/' ∉ format.suffix.toList := by
  cases format <;> decide

/-- The name of the file that a job writes. -/
def fileName (job : Job) : String :=
  job.name ++ job.format.suffix

/-- The file of a job stands directly in its directory. -/
theorem locate_outputPath_eq_ok_iff (job : Job) (hname : IsIdentifier job.name) (files : Files)
    (place : Place) :
    files.locate (Path.segments job.outputPath) = .ok place ↔
      ∃ directory, files.Leads (Path.segments job.outDir) directory ∧
        job.fileName.utf8ByteSize ≤ 255 ∧ place = directory ++ [job.fileName] :=
  files.locate_join_eq_ok_iff job.outDir (isName_append hname _)
    (slash_not_mem_append hname (slash_not_mem_suffix job.format)) place

theorem locate_inputPath_eq_ok_iff (job : Job) (hname : IsIdentifier job.name) (files : Files)
    (place : Place) :
    files.locate (Path.segments job.inputPath) = .ok place ↔
      ∃ directory, files.Leads (Path.segments job.chartsDir) directory ∧
        (job.name ++ ".txt").utf8ByteSize ≤ 255 ∧ place = directory ++ [job.name ++ ".txt"] :=
  files.locate_join_eq_ok_iff job.chartsDir (isName_append hname _)
    (slash_not_mem_append hname (by decide)) place

/-- No job writes a file with the name of a chart. -/
theorem fileName_ne (job : Job) (name : String) : name ++ ".txt" ≠ job.fileName := by
  intro heq
  have hlast : ".txt".toList.getLast? = job.format.suffix.toList.getLast? := by
    have hnames := congrArg (fun text => text.toList.getLast?) heq
    simp only [fileName, String.toList_append] at hnames
    rwa [List.getLast?_append_of_ne_nil _ (by decide),
      List.getLast?_append_of_ne_nil _ (by cases job.format <;> decide)] at hnames
  cases hformat : job.format <;> rw [hformat] at hlast <;> revert hlast <;> decide

/-- No job writes at the place of a chart. -/
theorem chartPlace_ne (job : Job) (name : String) (directory other : Place) :
    directory ++ [name ++ ".txt"] ≠ other ++ [job.fileName] := by
  intro heq
  have hlast := congrArg List.getLast? heq
  simp only [List.getLast?_concat, Option.some.injEq] at hlast
  exact job.fileName_ne name hlast

/-! ## Delivering a text -/

/-- The text of a job stands in its file, directly in its directory.  No directory has
gone, and nothing else is new or different but directories on the way to that of the
job. -/
structure Delivered (job : Job) (contents : String) (before after : Files)
    (directory : Place) : Prop where
  retains : Files.Retains before after
  leads : after.Leads (Path.segments job.outDir) directory
  get?_file : after.get? (directory ++ [job.fileName]) = some (.file contents.toUTF8)
  read_outputPath : after.read job.outputPath = .ok contents.toUTF8
  spared : ∀ place, place ≠ directory ++ [job.fileName] →
    Files.SparedAlong (Path.segments job.outDir) before after place

/-- What delivering leaves behind, whether or not it succeeds. -/
theorem deliver_cases (job : Job) (hname : IsIdentifier job.name) (contents : String)
    (files : Files) :
    (∃ directory, (job.deliver contents files).2 = .ok job.outputPath ∧
        job.Delivered contents files (job.deliver contents files).1 directory) ∨
      ∃ cause, (job.deliver contents files).2 = .error (.unwritable job.outputPath cause) ∧
        Files.GrownAlong (Path.segments job.outDir) files (job.deliver contents files).1 := by
  have hgrown := files.grownAlong_makeDirectories job.outDir
  rw [deliver_eq]
  rcases hmake : files.makeDirectories job.outDir with ⟨middle, _ | cause⟩
  · rw [hmake] at hgrown
    cases hwrite : middle.write job.outputPath contents.toUTF8 with
    | error cause =>
      simp only [hwrite]
      exact .inr ⟨cause, rfl, hgrown⟩
    | ok after =>
      simp only [hwrite]
      left
      obtain ⟨hcheck, place, hlocate, hthere, rfl⟩ := (Files.write_eq_ok_iff ..).mp hwrite
      obtain ⟨directory, hleads, _, rfl⟩ :=
        (job.locate_outputPath_eq_ok_iff hname middle place).mp hlocate
      have hretains := Files.retains_put_file hthere contents.toUTF8
      have hroot : directory ++ [job.fileName] ≠ [] := by simp
      have hfile := (Files.get?_put middle hroot (.file contents.toUTF8) _).trans (if_pos rfl)
      refine ⟨directory, trivial, hgrown.retains.trans hretains, hretains.leads hleads, hfile,
        ?_, ?_⟩
      · exact (Files.read_eq_ok_iff ..).mpr ⟨hcheck, _, hretains.locate hlocate, hfile⟩
      · intro other hother
        have hsame := (Files.get?_put middle hroot (.file contents.toUTF8) other).trans
          (if_neg hother)
        exact (hgrown.spared other).trans (.inl hsame) hretains
  · rw [hmake] at hgrown
    exact .inr ⟨cause, rfl, hgrown⟩

/-! ## Running a job -/

/-- The chart of a job is this text. -/
def Reads (job : Job) (files : Files) (text : String) : Prop :=
  files.read job.inputPath = .ok text.toUTF8

/-- A job with a name has a chart, and this is its board. -/
def Loads (job : Job) (files : Files) (board : Board) : Prop :=
  IsIdentifier job.name ∧
    ∃ text, job.Reads files text ∧ Board.parse text.toList = .ok board

/-- A job does not accept the links of a board. -/
def Refuses (job : Job) (board : Board) : Prop :=
  job.strict = true ∧ board.oneWayLinks ≠ []

theorem refuses_iff (job : Job) (board : Board) :
    job.Refuses board ↔ (job.strict && !board.oneWayLinks.isEmpty) = true := by
  simp [Refuses]

/-- How a job ends: its result, and the files that it leaves. -/
inductive Ends (job : Job) (files : Files) : Except Failure String → Files → Prop where
  | invalidName (hname : ¬IsIdentifier job.name) :
    Ends job files (.error (.invalidName job.name)) files
  | unreadable {cause : FileError} (hname : IsIdentifier job.name)
    (hread : ∀ text, ¬job.Reads files text) :
    Ends job files (.error (.unreadable job.inputPath cause)) files
  | unrecognizedSymbol {text : String} {glyph : Chart.Glyph} (hname : IsIdentifier job.name)
    (hread : job.Reads files text) (hparse : Board.parse text.toList = .error glyph) :
    Ends job files (.error (.unrecognizedSymbol glyph)) files
  | oneWayLinks {board : Board} (hloads : job.Loads files board) (hrefuses : job.Refuses board) :
    Ends job files (.error (.oneWayLinks board.oneWayLinks.length)) files
  | unwritable {board : Board} {cause : FileError} {after : Files}
    (hloads : job.Loads files board) (haccepts : ¬job.Refuses board)
    (hgrown : Files.GrownAlong (Path.segments job.outDir) files after) :
    Ends job files (.error (.unwritable job.outputPath cause)) after
  | delivered {board : Board} {directory : Place} {after : Files}
    (hloads : job.Loads files board) (haccepts : ¬job.Refuses board)
    (hdelivered : job.Delivered (job.render board) files after directory) :
    Ends job files (.ok job.outputPath) after

theorem decodeText_eq_ok_iff (bytes : ByteArray) (text : String) :
    decodeText bytes = .ok text ↔ bytes = text.toUTF8 := by
  have hdecode : String.fromUTF8? bytes = some text ↔ bytes = text.toUTF8 := by
    unfold String.fromUTF8?
    split
    · rw [Option.some.injEq, ← String.toByteArray_inj]
      rfl
    · next hinvalid =>
      simp only [reduceCtorEq, false_iff]
      rintro rfl
      exact hinvalid text.isValidUTF8
  rw [← hdecode, decodeText]
  cases String.fromUTF8? bytes <;> simp

theorem reads_iff (job : Job) (files : Files) (text : String) :
    job.Reads files text ↔ (files.read job.inputPath).bind decodeText = .ok text := by
  rw [Reads]
  cases files.read job.inputPath with
  | error cause => simp [Except.bind]
  | ok bytes => simp [Except.bind, decodeText_eq_ok_iff]

theorem load_result (job : Job) (input : Except FileError ByteArray) :
    (job.load input).2 =
      match input.bind decodeText with
      | .error cause => .error (.unreadable job.inputPath cause)
      | .ok text => (Board.parse text.toList).mapError .unrecognizedSymbol := by
  unfold load
  cases input.bind decodeText with
  | error cause => rfl
  | ok text =>
    simp only [Board.parse]
    cases Chart.Sketch.ofText text.toList <;> rfl

/-- A job has a board exactly when loading its chart gives it. -/
theorem loads_iff (job : Job) (files : Files) (board : Board) :
    job.Loads files board ↔
      IsIdentifier job.name ∧ (job.load (files.read job.inputPath)).2 = .ok board := by
  rw [Loads, load_result]
  simp only [reads_iff]
  cases (files.read job.inputPath).bind decodeText with
  | error cause => simp
  | ok text => cases hparse : Board.parse text.toList <;> simp [hparse, Except.mapError]

theorem compile_result (job : Job) (input : Except FileError ByteArray) :
    (job.compile input).2 =
      match (job.load input).2 with
      | .error failure => .error failure
      | .ok board =>
        if job.strict && !board.oneWayLinks.isEmpty then
          .error (.oneWayLinks board.oneWayLinks.length)
        else
          .ok (job.render board) := by
  unfold compile
  rcases job.load input with ⟨events, failure | board⟩
  · rfl
  · exact apply_ite Prod.snd _ _ _

/-- A job with a name compiles its chart and delivers what comes of it, if anything. -/
theorem run_result_files (job : Job) (hname : IsIdentifier job.name) (files : Files) :
    ((job.run files).result, (job.run files).files) =
      match (job.compile (files.read job.inputPath)).2 with
      | .error failure => (.error failure, files)
      | .ok contents => ((job.deliver contents files).2, (job.deliver contents files).1) := by
  rw [run_eq, if_pos ((isIdentifier_iff job.name).mpr hname)]
  rcases job.compile (files.read job.inputPath) with ⟨events, failure | contents⟩ <;> rfl

/-- Every run of a job ends in one of six ways. -/
theorem ends_run (job : Job) (files : Files) :
    job.Ends files (job.run files).result (job.run files).files := by
  by_cases hname : IsIdentifier job.name
  · have hrun := job.run_result_files hname files
    rw [compile_result, load_result] at hrun
    cases hinput : (files.read job.inputPath).bind decodeText with
    | error cause =>
      rw [hinput] at hrun
      obtain ⟨hresult, hfiles⟩ := Prod.mk.inj hrun
      rw [hresult, hfiles]
      refine .unreadable hname fun text htext => ?_
      simp [reads_iff, hinput] at htext
    | ok text =>
      have hread := (job.reads_iff files text).mpr hinput
      cases hparse : Board.parse text.toList with
      | error glyph =>
        simp only [hinput, hparse, Except.mapError] at hrun
        obtain ⟨hresult, hfiles⟩ := Prod.mk.inj hrun
        rw [hresult, hfiles]
        exact .unrecognizedSymbol hname hread hparse
      | ok board =>
        have hloads : job.Loads files board := ⟨hname, text, hread, hparse⟩
        simp only [hinput, hparse, Except.mapError] at hrun
        by_cases hrefuses : job.Refuses board
        · rw [if_pos ((job.refuses_iff board).mp hrefuses)] at hrun
          obtain ⟨hresult, hfiles⟩ := Prod.mk.inj hrun
          rw [hresult, hfiles]
          exact .oneWayLinks hloads hrefuses
        · rw [if_neg ((job.refuses_iff board).not.mp hrefuses)] at hrun
          obtain ⟨hresult, hfiles⟩ := Prod.mk.inj hrun
          rw [hresult, hfiles]
          rcases job.deliver_cases hname (job.render board) files with
            ⟨directory, hdone, hdelivered⟩ | ⟨cause, hfailed, hgrown⟩
          · rw [hdone]
            exact .delivered hloads hrefuses hdelivered
          · rw [hfailed]
            exact .unwritable hloads hrefuses hgrown
  · rw [run_eq, if_neg fun hidentifier => hname ((isIdentifier_iff job.name).mp hidentifier)]
    exact .invalidName hname

theorem reads_unique {job : Job} {files : Files} {text other : String}
    (htext : job.Reads files text) (hother : job.Reads files other) : text = other := by
  rw [reads_iff] at htext hother
  rw [htext] at hother
  exact Except.ok.inj hother

theorem loads_unique {job : Job} {files : Files} {board other : Board}
    (hboard : job.Loads files board) (hother : job.Loads files other) : board = other := by
  obtain ⟨_, text, hread, hparse⟩ := hboard
  obtain ⟨_, otherText, hreadOther, hparseOther⟩ := hother
  rw [← reads_unique hread hreadOther, hparse] at hparseOther
  exact Except.ok.inj hparseOther

theorem exists_reads_of_loads {job : Job} {files : Files} {board : Board}
    (hloads : job.Loads files board) : ∃ text, job.Reads files text := by
  obtain ⟨_, text, hread, _⟩ := hloads
  exact ⟨text, hread⟩

/-- A chart that has a board has no character to report. -/
theorem parse_ne_error_of_loads {job : Job} {files : Files} {board : Board}
    (hloads : job.Loads files board) {text : String} (hread : job.Reads files text)
    (glyph : Chart.Glyph) : Board.parse text.toList ≠ .error glyph := by
  obtain ⟨_, other, hreadOther, hparse⟩ := hloads
  rw [reads_unique hread hreadOther, hparse]
  simp

namespace Ends

variable {job : Job} {files after : Files} {result : Except Failure String}
variable (hends : job.Ends files result after)

include hends

theorem invalidName_iff (name : String) :
    result = .error (.invalidName name) ↔ name = job.name ∧ ¬IsIdentifier job.name := by
  cases hends with
  | invalidName hname => simp [hname, eq_comm]
  | unreadable hname _ => simp [hname]
  | unrecognizedSymbol hname _ _ => simp [hname]
  | oneWayLinks hloads _ => simp [hloads.1]
  | unwritable hloads _ _ => simp [hloads.1]
  | delivered hloads _ _ => simp [hloads.1]

theorem unreadable_iff (path : String) :
    (∃ cause, result = .error (.unreadable path cause)) ↔
      path = job.inputPath ∧ IsIdentifier job.name ∧ ∀ text, ¬job.Reads files text := by
  cases hends with
  | invalidName hname => simp [hname]
  | unreadable hname hread => simp [hname, hread, eq_comm]
  | unrecognizedSymbol _ hread _ => simpa using fun _ _ => ⟨_, hread⟩
  | oneWayLinks hloads _ => simpa using fun _ _ => exists_reads_of_loads hloads
  | unwritable hloads _ _ => simpa using fun _ _ => exists_reads_of_loads hloads
  | delivered hloads _ _ => simpa using fun _ _ => exists_reads_of_loads hloads

theorem unrecognizedSymbol_iff (glyph : Chart.Glyph) :
    result = .error (.unrecognizedSymbol glyph) ↔
      IsIdentifier job.name ∧
        ∃ text, job.Reads files text ∧ Board.parse text.toList = .error glyph := by
  cases hends with
  | invalidName hname => simp [hname]
  | unreadable _ hread => simp [hread]
  | @unrecognizedSymbol text found hname hread hparse =>
    constructor
    · intro hresult
      simp only [Except.error.injEq, Failure.unrecognizedSymbol.injEq] at hresult
      rw [← hresult]
      exact ⟨hname, text, hread, hparse⟩
    · rintro ⟨_, other, hreadOther, hparseOther⟩
      rw [reads_unique hreadOther hread, hparse, Except.error.injEq] at hparseOther
      rw [hparseOther]
  | oneWayLinks hloads _ =>
    simpa using fun _ _ hread => parse_ne_error_of_loads hloads hread glyph
  | unwritable hloads _ _ =>
    simpa using fun _ _ hread => parse_ne_error_of_loads hloads hread glyph
  | delivered hloads _ _ =>
    simpa using fun _ _ hread => parse_ne_error_of_loads hloads hread glyph

theorem oneWayLinks_iff (count : Nat) :
    result = .error (.oneWayLinks count) ↔
      ∃ board, job.Loads files board ∧ job.Refuses board ∧ count = board.oneWayLinks.length := by
  cases hends with
  | invalidName hname => simpa using fun _ hloads => absurd hloads.1 hname
  | unreadable _ hread =>
    simpa using fun _ hloads => absurd (exists_reads_of_loads hloads) (by simpa using hread)
  | unrecognizedSymbol _ hread hparse =>
    simpa using fun _ hloads => absurd hparse (parse_ne_error_of_loads hloads hread _)
  | @oneWayLinks board hloads hrefuses =>
    constructor
    · intro hresult
      simp only [Except.error.injEq, Failure.oneWayLinks.injEq] at hresult
      exact ⟨board, hloads, hrefuses, hresult.symm⟩
    · rintro ⟨other, hother, _, rfl⟩
      rw [loads_unique hother hloads]
  | unwritable hloads haccepts _ =>
    simpa using fun _ hother hrefuses => absurd (loads_unique hother hloads ▸ hrefuses) haccepts
  | delivered hloads haccepts _ =>
    simpa using fun _ hother hrefuses => absurd (loads_unique hother hloads ▸ hrefuses) haccepts

/-- A job that is refused changes nothing at all. -/
theorem files_eq_of_refused {failure : Failure} (hresult : result = .error failure)
    (hrefused : ∀ path cause, failure ≠ .unwritable path cause) : after = files := by
  cases hends with
  | unwritable _ _ _ => exact absurd (Except.error.inj hresult).symm (hrefused _ _)
  | delivered _ _ _ => simp at hresult
  | _ => rfl

/-- A job whose board is accepted writes its file or reports why it could not. -/
theorem delivered_or_unwritable {board : Board} (hloads : job.Loads files board)
    (haccepts : ¬job.Refuses board) :
    (result = .ok job.outputPath ∧
        ∃ directory, job.Delivered (job.render board) files after directory) ∨
      ∃ cause, result = .error (.unwritable job.outputPath cause) ∧
        Files.GrownAlong (Path.segments job.outDir) files after := by
  cases hends with
  | invalidName hname => exact absurd hloads.1 hname
  | unreadable _ hread => exact absurd (exists_reads_of_loads hloads) (by simpa using hread)
  | unrecognizedSymbol _ hread hparse =>
    exact absurd hparse (parse_ne_error_of_loads hloads hread _)
  | oneWayLinks hother hrefuses =>
    exact absurd (loads_unique hother hloads ▸ hrefuses) haccepts
  | @unwritable _ cause _ _ _ hgrown => exact .inr ⟨cause, rfl, hgrown⟩
  | @delivered _ directory _ hother _ hdelivered =>
    rw [loads_unique hother hloads] at hdelivered
    exact .inl ⟨rfl, directory, hdelivered⟩

theorem retains : Files.Retains files after := by
  cases hends with
  | unwritable _ _ hgrown => exact hgrown.retains
  | delivered _ _ hdelivered => exact hdelivered.retains
  | _ => exact .refl files

/-- A file that is not as it was is the one that the job has written. -/
theorem locate_of_changed {place : Place} {bytes : ByteArray}
    (hfile : files.get? place = some (.file bytes))
    (hchanged : after.get? place ≠ some (.file bytes)) :
    IsIdentifier job.name ∧ result = .ok job.outputPath ∧
      after.locate (Path.segments job.outputPath) = .ok place := by
  have hkept : ¬Files.SparedAlong (Path.segments job.outDir) files after place := by
    rintro (hsame | ⟨hnew, _⟩)
    · exact hchanged (hsame.trans hfile)
    · simp [hfile] at hnew
  cases hends with
  | unwritable _ _ hgrown => exact absurd (hgrown.spared place) hkept
  | @delivered _ directory _ hloads _ hdelivered =>
    obtain ⟨_, found, hlocate, _⟩ := (Files.read_eq_ok_iff ..).mp hdelivered.read_outputPath
    obtain ⟨parent, hleads, _, rfl⟩ :=
      (job.locate_outputPath_eq_ok_iff hloads.1 after found).mp hlocate
    obtain rfl : parent = directory := Except.ok.inj (hleads.symm.trans hdelivered.leads)
    have hplace : place = parent ++ [job.fileName] := by
      by_contra hother
      exact hkept (hdelivered.spared place hother)
    rw [hplace]
    exact ⟨hloads.1, rfl, hlocate⟩
  | _ => exact absurd hfile hchanged

/-- The chart of a job is read as before when the job has run. -/
theorem read_inputPath {bytes : ByteArray} (hread : files.read job.inputPath = .ok bytes) :
    after.read job.inputPath = .ok bytes := by
  obtain ⟨hcheck, place, hlocate, hfile⟩ := (Files.read_eq_ok_iff ..).mp hread
  refine (Files.read_eq_ok_iff ..).mpr ⟨hcheck, place, hends.retains.locate hlocate, ?_⟩
  by_contra hchanged
  obtain ⟨hname, _, houtput⟩ := hends.locate_of_changed hfile hchanged
  obtain ⟨_, _, _, hinput⟩ := (job.locate_inputPath_eq_ok_iff hname files place).mp hlocate
  obtain ⟨_, _, _, hwritten⟩ := (job.locate_outputPath_eq_ok_iff hname after place).mp houtput
  exact job.chartPlace_ne job.name _ _ (hinput.symm.trans hwritten)

end Ends

end Job

end HexChart
