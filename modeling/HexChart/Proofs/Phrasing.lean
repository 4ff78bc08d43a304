import HexChart.Program

/-!
# What a command line asks for

A command line is made of phrases: the name of the chart, options with their values, and
the strict flag.  The reader of arguments leaves the last option open until it meets the
next phrase, but a draft in which the open option is settled always holds just what the
phrases so far have given (`readArguments_words`).  The order and the spelling of the
phrases therefore do not matter, and the program does what the job does that they describe
(`run_eq_job`).
-/

namespace HexChart

namespace CommandLine

/-- An option with its value. -/
inductive Choice where
  | chartsDir (path : String)
  | outDir (path : String)
  | format (kind : Format)
  deriving DecidableEq

namespace Choice

@[simp]
def setting : Choice → Setting
  | chartsDir _ => .chartsDir
  | outDir _ => .outDir
  | format _ => .format

/-- The value as it stands on the command line. -/
@[simp]
def text : Choice → String
  | chartsDir path => path
  | outDir path => path
  | format kind => kind.name

end Choice

/-- A part of a command line that says one thing. -/
inductive Phrase where
  | name (text : String)
  /-- An option and its value in one word. -/
  | joined (choice : Choice)
  /-- An option, and its value in the next word. -/
  | spaced (choice : Choice)
  | strict
  deriving DecidableEq

/-- What a phrase can be about. -/
inductive Topic where
  | name
  | option (setting : Setting)
  | strict
  deriving DecidableEq

/-- A word that does not begin with a dash. -/
def IsPlain (word : String) : Prop :=
  word.toList.head? ≠ some '-'

instance (word : String) : Decidable (IsPlain word) :=
  inferInstanceAs (Decidable (word.toList.head? ≠ some '-'))

namespace Phrase

def words : Phrase → List String
  | name text => [text]
  | joined choice => ["--" ++ choice.setting.name ++ "=" ++ choice.text]
  | spaced choice => ["--" ++ choice.setting.name, choice.text]
  | strict => ["--strict"]

def topic : Phrase → Topic
  | name _ => .name
  | joined choice | spaced choice => .option choice.setting
  | strict => .strict

/-- No value is empty, and a word of its own does not begin with a dash. -/
def Sound : Phrase → Prop
  | name text => IsPlain text
  | joined choice => choice.text ≠ ""
  | spaced choice => choice.text ≠ "" ∧ IsPlain choice.text
  | strict => True

instance : (phrase : Phrase) → Decidable phrase.Sound
  | name text => inferInstanceAs (Decidable (IsPlain text))
  | joined choice => inferInstanceAs (Decidable (choice.text ≠ ""))
  | spaced choice => inferInstanceAs (Decidable (choice.text ≠ "" ∧ IsPlain choice.text))
  | strict => inferInstanceAs (Decidable True)

/-! What a phrase gives, topic by topic. -/

@[simp]
def name? : Phrase → Option String
  | name text => some text
  | _ => none

@[simp]
def choice? : Phrase → Option Choice
  | joined choice | spaced choice => some choice
  | _ => none

@[simp]
def chartsDir? (phrase : Phrase) : Option String :=
  match phrase.choice? with
  | some (.chartsDir path) => some path
  | _ => none

@[simp]
def outDir? (phrase : Phrase) : Option String :=
  match phrase.choice? with
  | some (.outDir path) => some path
  | _ => none

@[simp]
def format? (phrase : Phrase) : Option Format :=
  match phrase.choice? with
  | some (.format kind) => some kind
  | _ => none

/-- A phrase gives something for its own topic and for no other. -/
theorem isSome_parts (phrase : Phrase) :
    phrase.name?.isSome = (Topic.name == phrase.topic) ∧
      phrase.chartsDir?.isSome = (Topic.option .chartsDir == phrase.topic) ∧
      phrase.outDir?.isSome = (Topic.option .outDir == phrase.topic) ∧
      phrase.format?.isSome = (Topic.option .format == phrase.topic) ∧
      (phrase == .strict) = (Topic.strict == phrase.topic) := by
  rcases phrase with _ | (_ | _ | _) | (_ | _ | _) | _ <;> exact ⟨rfl, rfl, rfl, rfl, rfl⟩

end Phrase

/-! ## Words -/

theorem ofText_of_isPlain {word : String} (hplain : IsPlain word) :
    Argument.ofText word = .plain := by
  unfold IsPlain at hplain
  unfold Argument.ofText
  split <;> simp_all

/-- The name of an option ends at the equals sign, and its value is all that follows. -/
theorem ofText_joined (setting : Setting) (value : String) :
    Argument.ofText ("--" ++ setting.name ++ "=" ++ value) =
      .long setting.name (some value) := by
  have hword : ("--" ++ setting.name ++ "=" ++ value).toList =
      '-' :: '-' :: (setting.name.toList ++ '=' :: value.toList) := by
    simp [String.toList_append]
  have hequals : '=' ∉ setting.name.toList := by cases setting <;> decide
  have hname : ∀ character ∈ setting.name.toList, (character != '=') = true := by
    intro character hmem
    rw [bne_iff_ne]
    rintro rfl
    exact hequals hmem
  have htake : (setting.name.toList ++ '=' :: value.toList).takeWhile (· != '=') =
      setting.name.toList := by
    rw [List.takeWhile_append_of_pos hname]
    simp
  have hdrop : (setting.name.toList ++ '=' :: value.toList).dropWhile (· != '=') =
      '=' :: value.toList := by
    rw [List.dropWhile_append_of_pos hname]
    rfl
  obtain ⟨first, others, hcons⟩ := List.exists_cons_of_ne_nil
    (show setting.name.toList ++ '=' :: value.toList ≠ [] by simp)
  rw [hcons] at htake hdrop
  rw [Argument.ofText, hword, hcons]
  simp only [htake, hdrop, String.ofList_toList]

theorem ofText_spaced (setting : Setting) :
    Argument.ofText ("--" ++ setting.name) = .long setting.name none := by
  cases setting <;> rfl

/-- An option bears its own name, and no flag bears it. -/
theorem find_name (setting : Setting) :
    Flag.all.find? (·.name = setting.name) = none ∧
      Setting.all.find? (·.name = setting.name) = some setting := by
  cases setting <;> decide

/-! ## Drafts -/

namespace Draft

/-- Whether a draft has settled a topic. -/
def has (draft : Draft) : Topic → Bool
  | .name => draft.name.isSome
  | .option .chartsDir => draft.chartsDir.isSome
  | .option .outDir => draft.outDir.isSome
  | .option .format => draft.format.isSome
  | .strict => draft.strict

/-- A draft with what a phrase adds to it. -/
def add (draft : Draft) (phrase : Phrase) : Draft where
  name := draft.name.or phrase.name?
  chartsDir := draft.chartsDir.or phrase.chartsDir?
  outDir := draft.outDir.or phrase.outDir?
  format := draft.format.or phrase.format?
  strict := draft.strict || phrase == .strict

theorem has_add (draft : Draft) (phrase : Phrase) (topic : Topic) :
    (draft.add phrase).has topic = (draft.has topic || topic == phrase.topic) := by
  obtain ⟨hname, hcharts, hout, hformat, hstrict⟩ := phrase.isSome_parts
  rcases topic with _ | (_ | _ | _) | _ <;>
    simp only [has, add, Option.isSome_or, hname, hcharts, hout, hformat, hstrict]

theorem has_foldl_add (draft : Draft) (phrases : List Phrase) (topic : Topic) :
    (phrases.foldl add draft).has topic =
      (draft.has topic || topic ∈ phrases.map Phrase.topic) := by
  induction phrases generalizing draft with
  | nil => simp
  | cons phrase others ih =>
    rw [List.foldl_cons, ih, has_add]
    by_cases htopic : topic = phrase.topic
    · simp [htopic]
    · simp [htopic, beq_false_of_ne htopic]

/-- Of what several phrases give for one topic a draft has the first. -/
theorem foldl_add_part {α : Type} (field : Draft → Option α) (part : Phrase → Option α)
    (hadd : ∀ draft phrase, field (draft.add phrase) = (field draft).or (part phrase))
    (draft : Draft) (phrases : List Phrase) :
    field (phrases.foldl add draft) = (field draft).or (phrases.findSome? part) := by
  induction phrases generalizing draft with
  | nil => simp
  | cons phrase others ih =>
    rw [List.foldl_cons, ih, hadd, Option.or_assoc, List.findSome?_cons]
    cases part phrase <;> rfl

theorem strict_foldl_add (draft : Draft) (phrases : List Phrase) :
    (phrases.foldl add draft).strict = (draft.strict || Phrase.strict ∈ phrases) := by
  induction phrases generalizing draft with
  | nil => simp
  | cons phrase others ih =>
    rw [List.foldl_cons, ih, add]
    by_cases hstrict : phrase = .strict
    · simp [hstrict]
    · simp [beq_false_of_ne hstrict, Ne.symm hstrict]

theorem formatValue_name (format : Format) : formatValue format.name = .ok format := by
  cases format <;> rfl

/-- A choice that is new to a draft is assigned. -/
theorem assign_choice {draft : Draft} {choice : Choice} (htext : choice.text ≠ "")
    (hnew : draft.has (.option choice.setting) = false) :
    draft.assign choice.setting choice.text = .ok (draft.add (.spaced choice)) := by
  cases choice with
  | chartsDir path =>
    have hnone : draft.chartsDir = none := by simpa [has] using hnew
    have hpath : path ≠ "" := htext
    simp [assign, hnone, directoryValue, hpath, Except.map, add]
  | outDir path =>
    have hnone : draft.outDir = none := by simpa [has] using hnew
    have hpath : path ≠ "" := htext
    simp [assign, hnone, directoryValue, hpath, Except.map, add]
  | format kind =>
    have hnone : draft.format = none := by simpa [has] using hnew
    simp [assign, hnone, formatValue_name, Except.map, add]

end Draft

/-! ## Reading phrases -/

section Reading

variable {draft settled : Draft} {pending : Pending}

/-- An option that can be settled has its value. -/
theorem closed_of_settle (hsettle : draft.settle pending = .ok settled) (setting : Setting) :
    pending ≠ some (setting, none) := by
  rintro rfl
  cases hsettle

theorem name_of_assign {setting : Setting} {value : String}
    (hassign : draft.assign setting value = .ok settled) : settled.name = draft.name := by
  have hmap : ∀ {α : Type} {part : Except UsageError α} {put : α → Draft},
      part.map put = .ok settled → (∀ given, (put given).name = draft.name) →
        settled.name = draft.name := by
    intro α part put hmapped hput
    cases part with
    | error fault => cases hmapped
    | ok given => rw [← Except.ok.inj hmapped, hput]
  cases setting <;> rw [Draft.assign] at hassign <;> split at hassign
  all_goals first | cases hassign | exact hmap hassign fun _ => rfl

/-- Settling an option does not touch the name. -/
theorem name_of_settle (hsettle : draft.settle pending = .ok settled) :
    settled.name = draft.name := by
  rcases pending with _ | ⟨setting, _ | value⟩
  · rw [Except.ok.inj hsettle]
  · cases hsettle
  · exact name_of_assign hsettle

/-- A name is taken if there is none. -/
theorem takeName_of_settle (hsettle : draft.settle pending = .ok settled)
    (hnew : settled.has .name = false) (name : String) :
    draft.takeName pending name = .ok (settled.add (.name name)) := by
  have hnone : settled.name = none := by simpa [Draft.has] using hnew
  have hfree : draft.name = none := (name_of_settle hsettle).symm.trans hnone
  simp [Draft.takeName, hfree, hsettle, Except.map, Draft.add, hnone]

theorem takeFlag_of_settle (hsettle : draft.settle pending = .ok settled)
    (hnew : settled.has .strict = false) :
    draft.takeFlag pending .strict = .ok (.inr (settled.add .strict)) := by
  have hstrict : settled.strict = false := hnew
  simp [Draft.takeFlag, hsettle, bind, Except.bind, pure, Except.pure, hstrict, Draft.add]

/-- Reading a phrase about a new topic leaves a draft and an open option.  When that option
is settled, the draft has what the phrase adds. -/
theorem readArguments_words (hsettle : draft.settle pending = .ok settled) {phrase : Phrase}
    (hsound : phrase.Sound) (hnew : settled.has phrase.topic = false) :
    ∃ next left, Draft.settle next left = .ok (settled.add phrase) ∧
      ∀ rest, readArguments draft pending (phrase.words ++ rest) =
        readArguments next left rest := by
  cases phrase with
  | name text =>
    refine ⟨settled.add (.name text), none, rfl, fun rest => ?_⟩
    rw [Phrase.words, List.singleton_append, readArguments.eq_def]
    simp only [ofText_of_isPlain hsound, takeName_of_settle hsettle hnew]
    split
    · exact absurd rfl (closed_of_settle hsettle _)
    · rfl
  | joined choice =>
    refine ⟨settled.add (.joined choice), none, rfl, fun rest => ?_⟩
    obtain ⟨hflag, hsetting⟩ := find_name choice.setting
    rw [Phrase.words, List.singleton_append, readArguments.eq_def]
    simp only [ofText_joined, hflag, hsetting, hsettle, bind, Except.bind,
      Draft.assign_choice hsound hnew]
    rfl
  | spaced choice =>
    obtain ⟨hflag, hsetting⟩ := find_name choice.setting
    refine ⟨settled, some (choice.setting, some choice.text),
      Draft.assign_choice hsound.1 hnew, fun rest => ?_⟩
    rw [Phrase.words, List.cons_append, List.singleton_append, readArguments.eq_def]
    simp only [ofText_spaced, hflag, hsetting, hsettle, bind, Except.bind]
    rw [readArguments.eq_def]
    simp only [ofText_of_isPlain hsound.2]
  | strict =>
    refine ⟨settled.add .strict, none, rfl, fun rest => ?_⟩
    have hstrict : Argument.ofText "--strict" = .long "strict" none := rfl
    have hfind : Flag.all.find? (·.name = "strict") = some .strict := by decide
    rw [Phrase.words, List.singleton_append, readArguments.eq_def]
    simp only [hstrict, hfind, takeFlag_of_settle hsettle hnew]
    rfl

/-- Reading phrases about different topics adds what they give. -/
theorem readArguments_phrases {phrases : List Phrase} (hsettle : draft.settle pending = .ok settled)
    (hsound : ∀ phrase ∈ phrases, phrase.Sound) (honce : (phrases.map Phrase.topic).Nodup)
    (hnew : ∀ phrase ∈ phrases, settled.has phrase.topic = false) :
    ∃ next left, Draft.settle next left = .ok (phrases.foldl Draft.add settled) ∧
      ∀ rest, readArguments draft pending (phrases.flatMap Phrase.words ++ rest) =
        readArguments next left rest := by
  induction phrases generalizing draft pending settled with
  | nil => exact ⟨draft, pending, hsettle, fun _ => rfl⟩
  | cons phrase others ih =>
    obtain ⟨hother, honceOthers⟩ := List.nodup_cons.mp honce
    obtain ⟨middle, between, hmiddle, hread⟩ := readArguments_words hsettle
      (hsound phrase List.mem_cons_self) (hnew phrase List.mem_cons_self)
    have hnewOthers : ∀ next ∈ others, (settled.add phrase).has next.topic = false := by
      intro next hmem
      have htopic : next.topic ≠ phrase.topic := by
        intro htopic
        rw [← htopic] at hother
        exact hother (List.mem_map_of_mem hmem)
      rw [Draft.has_add, hnew next (List.mem_cons_of_mem phrase hmem)]
      simp [htopic]
    obtain ⟨next, left, hnext, hrest⟩ := ih hmiddle
      (fun next hmem => hsound next (List.mem_cons_of_mem phrase hmem)) honceOthers hnewOthers
    refine ⟨next, left, hnext, fun rest => ?_⟩
    rw [List.flatMap_cons, List.append_assoc, hread, hrest]

end Reading

/-- How phrases are spelled: one after the other, or with the name behind two dashes at
the end, where it may begin with a dash. -/
inductive Spells (phrases : List Phrase) : List String → Prop where
  | plain (hsound : ∀ phrase ∈ phrases, phrase.Sound) :
    Spells phrases (phrases.flatMap Phrase.words)
  | dashed {front : List Phrase} {name : String} (hphrases : phrases = front ++ [.name name])
    (hsound : ∀ phrase ∈ front, phrase.Sound) :
    Spells phrases (front.flatMap Phrase.words ++ ["--", name])

/-- What arguments settle is what their phrases give. -/
theorem readArguments_of_spells {phrases : List Phrase} {words : List String}
    (hspells : Spells phrases words) (honce : (phrases.map Phrase.topic).Nodup) :
    readArguments .blank none words = .ok (.inr (phrases.foldl Draft.add .blank)) := by
  have hblank : ∀ topic, Draft.blank.has topic = false := by
    rintro (_ | (_ | _ | _) | _) <;> rfl
  have hstart : Draft.blank.settle none = .ok .blank := rfl
  cases hspells with
  | plain hsound =>
    obtain ⟨next, left, hnext, hread⟩ :=
      readArguments_phrases hstart hsound honce fun phrase _ => hblank phrase.topic
    rw [← List.append_nil (phrases.flatMap Phrase.words), hread, readArguments, hnext]
    rfl
  | @dashed front name hphrases hsound =>
    subst hphrases
    rw [List.map_append, List.nodup_append] at honce
    obtain ⟨honceFront, _, hseparate⟩ := honce
    obtain ⟨next, left, hnext, hread⟩ :=
      readArguments_phrases hstart hsound honceFront fun phrase _ => hblank phrase.topic
    have hnew : (front.foldl Draft.add .blank).has .name = false := by
      rw [Draft.has_foldl_add, hblank, Bool.false_or, decide_eq_false_iff_not]
      exact fun hmem => hseparate _ hmem .name (by simp [Phrase.topic]) rfl
    have hdashes : Argument.ofText "--" = .separator := rfl
    rw [hread, readArguments.eq_def]
    simp only [hdashes, readNames, takeName_of_settle hnext hnew, List.foldl_append]
    rfl

/-- The job that phrases describe: each directory is the one that they give, else the one
of the surroundings, else the usual one. -/
def describedJob (environment : Environment) (phrases : List Phrase) (name : String) : Job where
  name := name
  chartsDir := (phrases.findSome? Phrase.chartsDir?).getD (environment.chartsDir.getD "boards")
  outDir := (phrases.findSome? Phrase.outDir?).getD (environment.outDir.getD "generated")
  format := (phrases.findSome? Phrase.format?).getD .header
  strict := .strict ∈ phrases

theorem chooseDirectory_eq (setting : Setting) (argument : Option String)
    {surroundings : Option String} (hsurroundings : surroundings ≠ some "") (usual : String) :
    chooseDirectory setting argument surroundings usual =
      .ok (argument.getD (surroundings.getD usual)) := by
  rcases argument with _ | path
  · rcases surroundings with _ | path
    · rfl
    · have hpath : path ≠ "" := fun hempty => hsurroundings (by rw [hempty])
      simp [chooseDirectory, directoryValue, hpath]
  · rfl

/-- What phrases give makes the job that they describe. -/
theorem job_foldl_add {phrases : List Phrase} {name : String}
    (hname : phrases.filterMap Phrase.name? = [name]) {environment : Environment}
    (hcharts : environment.chartsDir ≠ some "") (hout : environment.outDir ≠ some "") :
    (phrases.foldl Draft.add .blank).job environment =
      .ok (describedJob environment phrases name) := by
  have hgivenName := Draft.foldl_add_part Draft.name Phrase.name? (fun _ _ => rfl) .blank phrases
  have hgivenCharts :=
    Draft.foldl_add_part Draft.chartsDir Phrase.chartsDir? (fun _ _ => rfl) .blank phrases
  have hgivenOut := Draft.foldl_add_part Draft.outDir Phrase.outDir? (fun _ _ => rfl) .blank phrases
  have hgivenFormat :=
    Draft.foldl_add_part Draft.format Phrase.format? (fun _ _ => rfl) .blank phrases
  have hfirst : phrases.findSome? Phrase.name? = some name := by
    rw [← List.head?_filterMap, hname]
    rfl
  unfold Draft.job describedJob
  rw [hgivenName, hgivenCharts, hgivenOut, hgivenFormat, Draft.strict_foldl_add,
    chooseDirectory_eq _ _ hcharts, chooseDirectory_eq _ _ hout, hfirst]
  rfl

end CommandLine

namespace Program

open CommandLine

/-- The program does exactly what the job does that its arguments describe, in whatever
order and spelling they come.  Its exit code tells whether the job succeeds, it prints
nothing, and it leaves the files that the job leaves. -/
theorem run_eq_job (environment : Environment) {phrases : List Phrase} {words : List String}
    {name : String} (hspells : Spells phrases words) (honce : (phrases.map Phrase.topic).Nodup)
    (hname : phrases.filterMap Phrase.name? = [name])
    (hcharts : environment.chartsDir ≠ some "") (hout : environment.outDir ≠ some "")
    (files : Files) :
    parse environment words = .ok (.run (describedJob environment phrases name)) ∧
      ((run environment words files).exitCode = 0 ↔
        ∃ path, ((describedJob environment phrases name).run files).result = .ok path) ∧
      ((run environment words files).exitCode = 1 ↔
        ∃ failure, ((describedJob environment phrases name).run files).result = .error failure) ∧
      (run environment words files).output = "" ∧
      (run environment words files).files =
        ((describedJob environment phrases name).run files).files := by
  have hparse : parse environment words = .ok (.run (describedJob environment phrases name)) := by
    simp only [parse, readArguments_of_spells hspells honce, job_foldl_add hname hcharts hout,
      bind, Except.bind, pure, Except.pure]
  have hrun : run environment words files =
      reportJob environment ((describedJob environment phrases name).run files) := by
    rw [run, hparse]
  rw [hrun]
  refine ⟨hparse, ?_, ?_, rfl, rfl⟩ <;>
    cases hresult : ((describedJob environment phrases name).run files).result <;>
    simp [reportJob, hresult]

/-- One directory is given although the surroundings know another one, the second one is
taken from them, and the name stands behind two dashes. -/
theorem run_named_last :
    ∃ (environment : Environment) (phrases : List Phrase) (words : List String) (files : Files),
      environment = ⟨some "elsewhere", some "out", some "debug"⟩ ∧
        phrases = [.joined (.chartsDir "charts"), .spaced (.format .json), .strict, .name "b"] ∧
        words = ["--boards-dir=charts", "--format", "json", "--strict", "--", "b"] ∧
        files = ⟨[(["charts"], .directory), (["charts", "b.txt"], .file ".\n".toUTF8)], []⟩ ∧
        Spells phrases words ∧ (phrases.map Phrase.topic).Nodup ∧
        phrases.filterMap Phrase.name? = ["b"] ∧
        environment.chartsDir ≠ some "" ∧ environment.outDir ≠ some "" ∧
        parse environment words = .ok (.run ⟨"b", "charts", "out", .json, true⟩) ∧
        (run environment words files).exitCode = 0 ∧
        ∃ bytes, (run environment words files).files.read "out/b.json" = .ok bytes := by
  refine ⟨_, _, _, _, rfl, rfl, rfl, rfl, ?_⟩
  have hspells : Spells
      [.joined (.chartsDir "charts"), .spaced (.format .json), .strict, .name "b"]
      ["--boards-dir=charts", "--format", "json", "--strict", "--", "b"] :=
    @Spells.dashed _ [.joined (.chartsDir "charts"), .spaced (.format .json), .strict] "b" rfl
      (by decide)
  obtain ⟨hparse, hexit, _, _, hfiles⟩ := run_eq_job
    ⟨some "elsewhere", some "out", some "debug"⟩ hspells (by decide) rfl (by decide) (by decide)
    ⟨[(["charts"], .directory), (["charts", "b.txt"], .file ".\n".toUTF8)], []⟩
  refine ⟨hspells, by decide, rfl, by decide, by decide, hparse, hexit.mpr ⟨_, rfl⟩, ?_⟩
  rw [hfiles]
  exact ⟨_, rfl⟩

end Program

end HexChart
