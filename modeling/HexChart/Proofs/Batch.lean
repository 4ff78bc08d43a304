import HexChart.Proofs.Delivery
import HexChart.Proofs.Remaking

/-!
# Jobs that run one after the other

Jobs that share their two directories do not get in each other's way.  No job changes
what another one reads, the directory is made by the first job that gets so far, and
each file depends on the jobs of its name alone.  What such jobs leave behind is therefore
settled by which jobs have run, not by their order or by how often they have run
(`leaves_runAll`, `Leaves.agrees`).
-/

namespace HexChart

/-- Two trees with the same current directory and the same entry at every place. -/
structure Files.Agrees (left right : Files) : Prop where
  current : left.current = right.current
  entry : ∀ place, left.get? place = right.get? place

theorem Files.Agrees.refl (files : Files) : files.Agrees files :=
  ⟨rfl, fun _ => rfl⟩

namespace Job

/-- What is left when jobs have run one after the other. -/
def runAll (files : Files) (jobs : List Job) : Files :=
  jobs.foldl (fun files job => (job.run files).files) files

theorem runAll_concat (files : Files) (jobs : List Job) (job : Job) :
    runAll files (jobs ++ [job]) = (job.run (runAll files jobs)).files := by
  rw [runAll, List.foldl_append]
  rfl

/-- A job whose board is accepted delivers this text. -/
def Offers (job : Job) (files : Files) (contents : String) : Prop :=
  ∃ board, job.Loads files board ∧ ¬job.Refuses board ∧ contents = job.render board

theorem run_of_offers {job : Job} {files : Files} {contents : String}
    (hoffers : job.Offers files contents) :
    (job.run files).result = (job.deliver contents files).2 ∧
      (job.run files).files = (job.deliver contents files).1 := by
  obtain ⟨board, hloads, haccepts, rfl⟩ := hoffers
  obtain ⟨hname, hload⟩ := (job.loads_iff files board).mp hloads
  have hstrict := (job.refuses_iff board).not.mp haccepts
  have hrun := job.run_result_files hname files
  rw [compile_result, hload] at hrun
  simp only [if_neg hstrict] at hrun
  exact Prod.mk.inj hrun

theorem run_of_not_offers {job : Job} {files : Files}
    (hsilent : ∀ contents, ¬job.Offers files contents) :
    (∀ path, (job.run files).result ≠ .ok path) ∧ (job.run files).files = files := by
  have hends := job.ends_run files
  generalize (job.run files).result = result at hends
  generalize (job.run files).files = after at hends
  cases hends with
  | unwritable hloads haccepts _ => exact absurd ⟨_, hloads, haccepts, rfl⟩ (hsilent _)
  | delivered hloads haccepts _ => exact absurd ⟨_, hloads, haccepts, rfl⟩ (hsilent _)
  | _ => simp

/-! ## What other jobs read -/

namespace Ends

variable {job : Job} {files after : Files} {result : Except Failure String}
variable (hends : job.Ends files result after)

include hends

/-- A job that changes anything has found the directory of the charts. -/
theorem unchanged_or_leads :
    after = files ∨ ∃ directory, files.Leads (Path.segments job.chartsDir) directory := by
  have hfound : ∀ board, job.Loads files board →
      ∃ directory, files.Leads (Path.segments job.chartsDir) directory := by
    rintro board ⟨hname, text, hread, _⟩
    obtain ⟨_, place, hlocate, _⟩ := (Files.read_eq_ok_iff ..).mp hread
    obtain ⟨directory, hleads, _⟩ := (job.locate_inputPath_eq_ok_iff hname files place).mp hlocate
    exact ⟨directory, hleads⟩
  cases hends with
  | unwritable hloads _ _ => exact .inr (hfound _ hloads)
  | delivered hloads _ _ => exact .inr (hfound _ hloads)
  | _ => exact .inl rfl

/-- A place with the name of a chart gets a directory at most. -/
theorem spared_chart (directory : Place) (name : String) :
    Files.SparedAlong (Path.segments job.outDir) files after (directory ++ [name ++ ".txt"]) := by
  cases hends with
  | unwritable _ _ hgrown => exact hgrown.spared _
  | delivered _ _ hdelivered =>
    exact hdelivered.spared _ (job.chartPlace_ne name directory _)
  | _ => exact .inl rfl

/-- Every chart of the same directory is read afterwards exactly if it was before. -/
theorem read_chart_iff {other : Job} (hname : IsIdentifier other.name)
    (hcharts : other.chartsDir = job.chartsDir) (bytes : ByteArray) :
    after.read other.inputPath = .ok bytes ↔ files.read other.inputPath = .ok bytes := by
  rcases hends.unchanged_or_leads with rfl | ⟨directory, hleads⟩
  · rfl
  · rw [← hcharts] at hleads
    have hplace := hends.retains.locate_join_iff hleads (isName_append hname ".txt")
      (slash_not_mem_append hname (by decide))
    rw [Files.read_eq_ok_iff, Files.read_eq_ok_iff, inputPath]
    simp only [hplace]
    apply and_congr_right
    intro _
    apply exists_congr
    intro place
    apply and_congr_right
    intro hlocate
    obtain ⟨_, _, _, rfl⟩ := (other.locate_inputPath_eq_ok_iff hname files place).mp hlocate
    rcases hends.spared_chart _ other.name with hsame | ⟨hnew, hmade, _⟩
    · rw [hsame]
    · simp [hnew, hmade]

/-- A job of the same directory offers the same text afterwards. -/
theorem offers_iff {other : Job} (hcharts : other.chartsDir = job.chartsDir) (contents : String) :
    other.Offers after contents ↔ other.Offers files contents := by
  simp only [Offers, Loads, Reads]
  apply exists_congr
  intro board
  apply and_congr_left
  intro _
  apply and_congr_right
  intro hname
  simp only [hends.read_chart_iff hname hcharts]

end Ends

/-- Jobs that have run change nothing of what a job of the same directory offers. -/
theorem offers_runAll_iff {files : Files} {jobs : List Job} {job : Job}
    (hcharts : ∀ other ∈ jobs, job.chartsDir = other.chartsDir) (contents : String) :
    job.Offers (runAll files jobs) contents ↔ job.Offers files contents := by
  induction jobs using List.reverseRecOn with
  | nil => rfl
  | append_singleton front last ih =>
    rw [runAll_concat, (last.ends_run _).offers_iff (hcharts last (by simp))]
    exact ih fun other hmem => hcharts other (by simp [hmem])

/-! ## Where jobs write -/

/-- The place at which a job writes, if nothing is in its way. -/
structure Targets (job : Job) (files : Files) (place : Place) : Prop where
  checkPath : Files.checkPath job.outputPath = .ok ()
  locate : files.locate (Path.segments job.outputPath) = .ok place
  not_directory : files.get? place ≠ some .directory

theorem write_outputPath_eq_ok_iff (job : Job) (files after : Files) (bytes : ByteArray) :
    files.write job.outputPath bytes = .ok after ↔
      ∃ place, job.Targets files place ∧ files.put place (.file bytes) = after := by
  rw [Files.write_eq_ok_iff]
  constructor
  · rintro ⟨hcheck, place, hlocate, hthere, hput⟩
    exact ⟨place, ⟨hcheck, hlocate, hthere⟩, hput⟩
  · rintro ⟨place, ⟨hcheck, hlocate, hthere⟩, hput⟩
    exact ⟨hcheck, place, hlocate, hthere, hput⟩

theorem Targets.unique {job : Job} {files : Files} {place other : Place}
    (hplace : job.Targets files place) (hother : job.Targets files other) : place = other :=
  Except.ok.inj (hplace.locate.symm.trans hother.locate)

/-- The name of its file tells the name of a job and its format. -/
theorem name_format_of_fileName {job other : Job} (hfile : job.fileName = other.fileName) :
    job.name = other.name ∧ job.format = other.format := by
  have hlists : job.name.toList ++ job.format.suffix.toList =
      other.name.toList ++ other.format.suffix.toList := by
    rw [← String.toList_append, ← String.toList_append]
    exact congrArg String.toList hfile
  have hformat : job.format = other.format := by
    have hlast := congrArg List.getLast? hlists
    rw [List.getLast?_append_of_ne_nil _ (by cases job.format <;> decide),
      List.getLast?_append_of_ne_nil _ (by cases other.format <;> decide)] at hlast
    revert hlast
    cases job.format <;> cases other.format <;> decide
  rw [hformat] at hlists
  exact ⟨String.toList_inj.mp (List.append_cancel_right hlists), hformat⟩

/-- Jobs of the same directories that write at one place offer the same text. -/
theorem offers_eq_of_targets {job other : Job} {before made : Files}
    (hcharts : other.chartsDir = job.chartsDir) (hout : other.outDir = job.outDir)
    {contents otherContents : String} (hoffers : job.Offers before contents)
    (hother : other.Offers before otherContents) {place : Place}
    (htargets : job.Targets made place) (hotherTargets : other.Targets made place) :
    otherContents = contents := by
  obtain ⟨board, hloads, _, rfl⟩ := hoffers
  obtain ⟨otherBoard, hotherLoads, _, rfl⟩ := hother
  obtain ⟨directory, hleads, _, hplace⟩ :=
    (job.locate_outputPath_eq_ok_iff hloads.1 made place).mp htargets.locate
  obtain ⟨otherDirectory, hotherLeads, _, hotherPlace⟩ :=
    (other.locate_outputPath_eq_ok_iff hotherLoads.1 made place).mp hotherTargets.locate
  rw [hout, hleads.eq_iff] at hotherLeads
  rw [hotherPlace, hotherLeads, List.append_cancel_left_eq, List.singleton_inj] at hplace
  obtain ⟨hname, hformat⟩ := name_format_of_fileName hplace
  have hsame : job.Loads before otherBoard := by
    obtain ⟨hidentifier, text, hread, hparse⟩ := hotherLoads
    rw [Reads, inputPath, hname, hcharts] at hread
    exact ⟨hname ▸ hidentifier, text, hread, hparse⟩
  rw [loads_unique hloads hsame, render, render, hname, hformat]

/-! ## What some jobs leave behind -/

/-- A job with this text has nothing in its way at this place. -/
def Puts (job : Job) (before made : Files) (place : Place) (contents : String) : Prop :=
  job.Offers before contents ∧ job.Targets made place

/-- Some of the jobs have a text. -/
def Offered (before : Files) (jobs : List Job) : Prop :=
  ∃ job ∈ jobs, ∃ contents, job.Offers before contents

/-- The tree in which a directory has been made, and the files of some jobs in it. -/
structure Holds (before : Files) (jobs : List Job) (made after : Files) : Prop where
  current : after.current = made.current
  file : ∀ job ∈ jobs, ∀ place contents, job.Puts before made place contents →
    after.get? place = some (.file contents.toUTF8)
  rest : ∀ place, (∀ job ∈ jobs, ∀ contents, ¬job.Puts before made place contents) →
    after.get? place = made.get? place

namespace Holds

variable {before made after : Files} {jobs : List Job} {job : Job}

/-- A place has a file of the jobs, or it is as it was. -/
theorem file_or_rest (hholds : Holds before jobs made after) (place : Place) :
    (∃ job ∈ jobs, ∃ contents, job.Puts before made place contents) ∨
      (∀ job ∈ jobs, ∀ contents, ¬job.Puts before made place contents) ∧
        after.get? place = made.get? place := by
  by_cases hput : ∃ job ∈ jobs, ∃ contents, job.Puts before made place contents
  · exact .inl hput
  · have hnone : ∀ job ∈ jobs, ∀ contents, ¬job.Puts before made place contents :=
      fun job hmem contents hputs => hput ⟨job, hmem, contents, hputs⟩
    exact .inr ⟨hnone, hholds.rest place hnone⟩

theorem directory_iff (hholds : Holds before jobs made after) (place : Place) :
    after.get? place = some .directory ↔ made.get? place = some .directory := by
  rcases hholds.file_or_rest place with ⟨job, hmem, contents, hputs⟩ | ⟨_, hsame⟩
  · simp [hholds.file job hmem place contents hputs, hputs.2.not_directory]
  · rw [hsame]

theorem retains (hholds : Holds before jobs made after) : Files.Retains made after :=
  ⟨hholds.current, fun place => (hholds.directory_iff place).mpr⟩

/-- What the jobs have put stands in no other job's way. -/
theorem targets_iff (hholds : Holds before jobs made after) (hname : IsIdentifier job.name)
    (hthere : made.isDirectory (Path.segments job.outDir) = true) (place : Place) :
    job.Targets after place ↔ job.Targets made place := by
  obtain ⟨directory, hleads⟩ := (Files.isDirectory_iff made _).mp hthere
  have hlocate := hholds.retains.locate_join_iff hleads (isName_append hname job.format.suffix)
    (slash_not_mem_append hname (slash_not_mem_suffix job.format)) place
  have hfree := not_congr (hholds.directory_iff place)
  constructor
  · intro htargets
    exact ⟨htargets.checkPath, hlocate.mp htargets.locate, hfree.mp htargets.not_directory⟩
  · intro htargets
    exact ⟨htargets.checkPath, hlocate.mpr htargets.locate, hfree.mpr htargets.not_directory⟩

/-- Jobs without texts put nothing. -/
theorem of_not_offered (hsilent : ¬Offered before jobs) : Holds before jobs made made where
  current := rfl
  file job hmem _ contents hputs := absurd ⟨job, hmem, contents, hputs.1⟩ hsilent
  rest _ _ := rfl

/-- A job that puts nothing adds nothing. -/
theorem skip (hholds : Holds before jobs made after)
    (hnothing : ∀ place contents, ¬job.Puts before made place contents) :
    Holds before (jobs ++ [job]) made after where
  current := hholds.current
  file other hmem place contents hputs := by
    rcases List.mem_append.mp hmem with hmem | hmem
    · exact hholds.file other hmem place contents hputs
    · rw [List.mem_singleton.mp hmem] at hputs
      exact absurd hputs (hnothing place contents)
  rest place hnone := hholds.rest place fun other hmem =>
    hnone other (List.mem_append_left [job] hmem)

/-- A job that puts its text adds its file, over that of a job with the same text. -/
theorem put (hholds : Holds before jobs made after)
    (hshared : ∀ other ∈ jobs, other.chartsDir = job.chartsDir ∧ other.outDir = job.outDir)
    {place : Place} {contents : String} (hputs : job.Puts before made place contents) :
    Holds before (jobs ++ [job]) made (after.put place (.file contents.toUTF8)) := by
  have hroot : place ≠ [] := by
    rintro rfl
    exact hputs.2.not_directory rfl
  have hget := Files.get?_put after hroot (.file contents.toUTF8)
  refine ⟨hholds.current, fun other hmem otherPlace otherContents hother => ?_,
    fun otherPlace hnone => ?_⟩
  · rw [hget]
    split
    · next hplace =>
      subst hplace
      rcases List.mem_append.mp hmem with hmem | hmem
      · obtain ⟨hcharts, hout⟩ := hshared other hmem
        rw [offers_eq_of_targets hcharts hout hputs.1 hother.1 hputs.2 hother.2]
      · obtain rfl := List.mem_singleton.mp hmem
        rw [offers_eq_of_targets rfl rfl hputs.1 hother.1 hputs.2 hother.2]
    · next hplace =>
      rcases List.mem_append.mp hmem with hmem | hmem
      · exact hholds.file other hmem otherPlace otherContents hother
      · rw [List.mem_singleton.mp hmem] at hother
        exact absurd (hother.2.unique hputs.2) hplace
  · have hplace : otherPlace ≠ place := by
      rintro rfl
      exact hnone job (by simp) contents hputs
    rw [hget, if_neg hplace]
    exact hholds.rest otherPlace fun other hmem => hnone other (List.mem_append_left [job] hmem)

/-- Which files there are depends on the jobs alone. -/
theorem agrees {others : List Job} {other : Files} (hmembers : ∀ job, job ∈ jobs ↔ job ∈ others)
    (hholds : Holds before jobs made after) (hother : Holds before others made other) :
    Files.Agrees after other where
  current := hholds.current.trans hother.current.symm
  entry place := by
    rcases hholds.file_or_rest place with ⟨job, hmem, contents, hputs⟩ | ⟨hnone, hsame⟩
    · rw [hholds.file job hmem place contents hputs,
        hother.file job ((hmembers job).mp hmem) place contents hputs]
    · rw [hsame, hother.rest place fun job hmem => hnone job ((hmembers job).mpr hmem)]

end Holds

/-- What is left of a tree by jobs that write to one directory: the tree itself if no job
has a text, what could be made of the directory if that fails, and otherwise the
directory with their files. -/
inductive Leaves (before : Files) (outDir : String) (jobs : List Job) : Files → Prop where
  | untouched (hsilent : ¬Offered before jobs) : Leaves before outDir jobs before
  | blocked {made : Files} {cause : FileError} (hoffered : Offered before jobs)
    (hfailed : before.makeDirectories outDir = (made, some cause)) :
    Leaves before outDir jobs made
  | held {made after : Files} (hoffered : Offered before jobs)
    (hmade : before.makeDirectories outDir = (made, none))
    (hholds : Holds before jobs made after) :
    Leaves before outDir jobs after

/-- The directory of a job can be made in a tree, and then the job has nothing in the way
of its text. -/
def Succeeds (job : Job) (before : Files) : Prop :=
  ∃ contents made place, before.makeDirectories job.outDir = (made, none) ∧
    job.Puts before made place contents

namespace Leaves

variable {before after : Files} {outDir : String} {jobs : List Job} {job : Job}

/-- What jobs leave behind depends on which ones they are, not on their order. -/
theorem agrees {others : List Job} {other : Files} (hmembers : ∀ job, job ∈ jobs ↔ job ∈ others)
    (hleaves : Leaves before outDir jobs after) (hother : Leaves before outDir others other) :
    Files.Agrees after other := by
  have hoffered : Offered before jobs ↔ Offered before others := by simp [Offered, hmembers]
  cases hleaves with
  | untouched hsilent =>
    cases hother with
    | untouched _ => exact .refl _
    | blocked hoffers _ => exact absurd (hoffered.mpr hoffers) hsilent
    | held hoffers _ _ => exact absurd (hoffered.mpr hoffers) hsilent
  | blocked hoffers hfailed =>
    cases hother with
    | untouched hsilent => exact absurd (hoffered.mp hoffers) hsilent
    | blocked _ hfailedOther =>
      obtain rfl := (Prod.mk.inj (hfailed.symm.trans hfailedOther)).1
      exact .refl _
    | held _ hmadeOther _ => simp [hfailed] at hmadeOther
  | held hoffers hmade hholds =>
    cases hother with
    | untouched hsilent => exact absurd (hoffered.mp hoffers) hsilent
    | blocked _ hfailedOther => simp [hmade] at hfailedOther
    | held _ hmadeOther hholdsOther =>
      obtain rfl := (Prod.mk.inj (hmade.symm.trans hmadeOther)).1
      exact hholds.agrees hmembers hholdsOther

/-- When the jobs have run, making their directory ends as it did before: it fails and
adds nothing, or it is there. -/
theorem makeDirectories (hleaves : Leaves before outDir jobs after) :
    (∃ made cause again, before.makeDirectories outDir = (made, some cause) ∧
        after.makeDirectories outDir = (made, some again)) ∨
      ∃ made base, before.makeDirectories outDir = (made, none) ∧
        after.makeDirectories outDir = (base, none) ∧ Holds before jobs made base := by
  cases hleaves with
  | untouched hsilent =>
    rcases hmake : before.makeDirectories outDir with ⟨made, _ | cause⟩
    · exact .inr ⟨made, made, rfl, rfl, .of_not_offered hsilent⟩
    · exact .inl ⟨made, cause, cause, rfl, rfl⟩
  | blocked _ hfailed =>
    obtain ⟨again, hagain⟩ := Files.makeDirectories_again hfailed
    exact .inl ⟨after, _, again, hfailed, hagain⟩
  | @held made _ _ hmade hholds =>
    obtain ⟨hcheck, hthere⟩ := Files.isDirectory_of_makeDirectories hmade
    obtain ⟨directory, hleads⟩ := (Files.isDirectory_iff made _).mp hthere
    have hstill := (Files.isDirectory_iff after _).mpr ⟨directory, hholds.retains.leads hleads⟩
    exact .inr ⟨made, after, hmade, Files.makeDirectories_of_isDirectory hcheck hstill, hholds⟩

/-- A job without a text leaves what was left. -/
theorem skip (hleaves : Leaves before outDir jobs after)
    (hsilent : ∀ contents, ¬job.Offers before contents) :
    Leaves before outDir (jobs ++ [job]) after := by
  have hoffered : Offered before (jobs ++ [job]) ↔ Offered before jobs := by
    simp [Offered, or_and_right, exists_or, hsilent]
  cases hleaves with
  | untouched hnone => exact .untouched (hoffered.not.mpr hnone)
  | blocked hoffers hfailed => exact .blocked (hoffered.mpr hoffers) hfailed
  | held hoffers hmade hholds =>
    exact .held (hoffered.mpr hoffers) hmade
      (hholds.skip fun _ contents hputs => hsilent contents hputs.1)

/-- A job with a text adds its file, and it succeeds exactly if it would have succeeded
before the other jobs. -/
theorem deliver (hleaves : Leaves before job.outDir jobs after)
    (hshared : ∀ other ∈ jobs, other.chartsDir = job.chartsDir ∧ other.outDir = job.outDir)
    {contents : String} (hoffers : job.Offers before contents) :
    Leaves before job.outDir (jobs ++ [job]) (job.deliver contents after).1 ∧
      ∀ path, (job.deliver contents after).2 = .ok path ↔
        path = job.outputPath ∧ job.Succeeds before := by
  have hname : IsIdentifier job.name := by
    obtain ⟨_, hloads, _⟩ := hoffers
    exact hloads.1
  have hoffered : Offered before (jobs ++ [job]) := ⟨job, by simp, contents, hoffers⟩
  rw [Job.deliver_eq]
  rcases hleaves.makeDirectories with
    ⟨made, cause, again, hfailed, hagain⟩ | ⟨made, base, hmade, hbase, hholds⟩
  · refine ⟨?_, fun path => ?_⟩
    · rw [hagain]
      exact .blocked hoffered hfailed
    · simp [hagain, Succeeds, hfailed]
  · obtain ⟨_, hthere⟩ := Files.isDirectory_of_makeDirectories hmade
    have htargets := hholds.targets_iff hname hthere
    simp only [hbase]
    cases hwrite : base.write job.outputPath contents.toUTF8 with
    | error cause =>
      have hnothing : ∀ place text, ¬job.Puts before made place text := by
        intro place _ hputs
        have hok := (write_outputPath_eq_ok_iff job base (base.put place (.file contents.toUTF8))
          contents.toUTF8).mpr ⟨place, (htargets place).mpr hputs.2, rfl⟩
        rw [hwrite] at hok
        cases hok
      refine ⟨.held hoffered hmade (hholds.skip hnothing), fun path => ?_⟩
      simp [Succeeds, hmade, hnothing]
    | ok after =>
      obtain ⟨place, hplace, rfl⟩ := (write_outputPath_eq_ok_iff ..).mp hwrite
      have hputs : job.Puts before made place contents := ⟨hoffers, (htargets place).mp hplace⟩
      refine ⟨.held hoffered hmade (hholds.put hshared hputs), fun path => ?_⟩
      have hsucceeds : job.Succeeds before := ⟨contents, made, place, hmade, hputs⟩
      simp [hsucceeds, eq_comm]

/-- One more job adds what it has, and how it ends was settled before the others ran. -/
theorem run (hleaves : Leaves before job.outDir jobs after)
    (hshared : ∀ other ∈ jobs, other.chartsDir = job.chartsDir ∧ other.outDir = job.outDir)
    (hoffers : ∀ contents, job.Offers after contents ↔ job.Offers before contents) :
    Leaves before job.outDir (jobs ++ [job]) (job.run after).files ∧
      ∀ path, (job.run after).result = .ok path ↔
        path = job.outputPath ∧ job.Succeeds before := by
  by_cases htext : ∃ contents, job.Offers before contents
  · obtain ⟨contents, hcontents⟩ := htext
    obtain ⟨hresult, hfiles⟩ := run_of_offers ((hoffers contents).mpr hcontents)
    rw [hresult, hfiles]
    exact hleaves.deliver hshared hcontents
  · have hsilent : ∀ contents, ¬job.Offers before contents := not_exists.mp htext
    obtain ⟨hresult, hfiles⟩ := run_of_not_offers fun contents =>
      (hoffers contents).not.mpr (hsilent contents)
    rw [hfiles]
    exact ⟨hleaves.skip hsilent, by simp [hresult, Succeeds, Puts, hsilent]⟩

end Leaves

section Shared

variable {files : Files} {jobs : List Job}

/-- What jobs of the same directories leave behind, and how a further one ends. -/
theorem leaves_run_runAll {job : Job}
    (hshared : ∀ other ∈ jobs, other.chartsDir = job.chartsDir ∧ other.outDir = job.outDir)
    (hleaves : Leaves files job.outDir jobs (runAll files jobs)) :
    Leaves files job.outDir (jobs ++ [job]) (job.run (runAll files jobs)).files ∧
      ∀ path, (job.run (runAll files jobs)).result = .ok path ↔
        path = job.outputPath ∧ job.Succeeds files :=
  hleaves.run hshared <| offers_runAll_iff fun other hmem => (hshared other hmem).1.symm

theorem leaves_runAll {chartsDir outDir : String}
    (hshared : ∀ job ∈ jobs, job.chartsDir = chartsDir ∧ job.outDir = outDir) :
    Leaves files outDir jobs (runAll files jobs) := by
  induction jobs using List.reverseRecOn with
  | nil => exact .untouched (by simp [Offered])
  | append_singleton front last ih =>
    obtain ⟨rfl, rfl⟩ := hshared last (by simp)
    have hfront : ∀ job ∈ front, job.chartsDir = last.chartsDir ∧ job.outDir = last.outDir :=
      fun job hmem => hshared job (by simp [hmem])
    rw [runAll_concat]
    exact (leaves_run_runAll hfront (ih hfront)).1

end Shared

/-- Jobs that share their two directories leave the same files behind in every order.
When they have run, running one of them again changes nothing, and it ends with the path
with which it has ended in its turn, or fails again. -/
theorem runAll_order_independent (files : Files) (chartsDir outDir : String) (jobs : List Job)
    (hshared : ∀ job ∈ jobs, job.chartsDir = chartsDir ∧ job.outDir = outDir) :
    (∀ others, jobs.Perm others → (runAll files jobs).Agrees (runAll files others)) ∧
      ∀ job ∈ jobs, (job.run (runAll files jobs)).files.Agrees (runAll files jobs) ∧
        ∀ front back, jobs = front ++ job :: back → ∀ path,
          ((job.run (runAll files jobs)).result = .ok path ↔
            (job.run (runAll files front)).result = .ok path) := by
  have hleaves : Leaves files outDir jobs (runAll files jobs) := leaves_runAll hshared
  refine ⟨fun others hperm => ?_, fun job hmem => ?_⟩
  · have hothers : ∀ job ∈ others, job.chartsDir = chartsDir ∧ job.outDir = outDir :=
      fun job hmem => hshared job (hperm.mem_iff.mpr hmem)
    exact hleaves.agrees (fun _ => hperm.mem_iff) (leaves_runAll hothers)
  · obtain ⟨rfl, rfl⟩ := hshared job hmem
    obtain ⟨hagain, hresult⟩ := leaves_run_runAll hshared hleaves
    refine ⟨hagain.agrees ?_ hleaves, fun front back hjobs path => ?_⟩
    · intro other
      rw [List.mem_append, List.mem_singleton, or_iff_left_iff_imp]
      rintro rfl
      exact hmem
    · have hfront : ∀ other ∈ front,
          other.chartsDir = job.chartsDir ∧ other.outDir = job.outDir :=
        fun other hother => hshared other (by simp [hjobs, hother])
      rw [hresult path, (leaves_run_runAll hfront (leaves_runAll hfront)).2 path]

/-- Two jobs write beside the chart that they read, in both formats, and a third one has
no chart. -/
theorem runAll_beside_charts :
    ∃ (header missing json : Job) (files : Files),
      header = ⟨"a", "charts", "charts", .header, false⟩ ∧
        missing = ⟨"b", "charts", "charts", .header, false⟩ ∧
        json = ⟨"a", "charts", "charts", .json, true⟩ ∧
        files = ⟨[(["charts"], .directory), (["charts", "a.txt"], .file ".\n".toUTF8)], []⟩ ∧
        (∀ job ∈ [header, missing, json], job.chartsDir = "charts" ∧ job.outDir = "charts") ∧
        (runAll files [header, missing, json]).Agrees (runAll files [json, header, missing]) ∧
        (header.run (runAll files [header, missing, json])).files.Agrees
          (runAll files [header, missing, json]) ∧
        (header.run files).result = .ok "charts/a.h" ∧
        (header.run (runAll files [header, missing, json])).result = .ok "charts/a.h" := by
  refine ⟨_, _, _, _, rfl, rfl, rfl, rfl, by simp, ?_⟩
  obtain ⟨hperm, hrepeat⟩ := runAll_order_independent
    ⟨[(["charts"], .directory), (["charts", "a.txt"], .file ".\n".toUTF8)], []⟩ "charts" "charts"
    [⟨"a", "charts", "charts", .header, false⟩, ⟨"b", "charts", "charts", .header, false⟩,
      ⟨"a", "charts", "charts", .json, true⟩] (by simp)
  obtain ⟨hagain, hresult⟩ := hrepeat _ List.mem_cons_self
  refine ⟨hperm _ (by decide), hagain, rfl, ?_⟩
  exact (hresult [] _ rfl "charts/a.h").mpr rfl

end Job

end HexChart
