import HexChart.Proofs.Delivery

/-!
# Refusing one-way links

A strict job and a lenient one read the same chart and report the same events; the only
thing that the strict one does differently is to stop before it writes anything when the
board has one-way links (`strictly_only_refuses`).
-/

namespace HexChart

namespace Job

/-- The same job, with one-way links refused. -/
def strictly (job : Job) : Job :=
  { job with strict := true }

/-- The same job, with one-way links accepted. -/
def leniently (job : Job) : Job :=
  { job with strict := false }

variable (job : Job)

/-! ## Events -/

/-- Nothing that happens while a chart is read is a warning. -/
theorem level_of_mem_load (input : Except FileError ByteArray) :
    ∀ event ∈ (job.load input).1, event.level = .debug := by
  unfold load
  cases input.bind decodeText with
  | error cause => simp
  | ok text =>
    cases hsketch : Chart.Sketch.ofText text.toList with
    | error glyph => simp [hsketch, Event.level]
    | ok sketch => simp [hsketch, Event.level]

/-- A chart that is read is audited, whatever comes of it. -/
theorem compile_events (input : Except FileError ByteArray) :
    (job.compile input).1 =
      match job.load input with
      | (events, .error _) => events
      | (events, .ok board) =>
        events ++ .loaded job.inputPath board.census board.linkCount ::
          board.oneWayLinks.map .oneWay := by
  unfold compile
  rcases job.load input with ⟨events, failure | board⟩
  · rfl
  · exact (apply_ite Prod.fst _ _ _).trans (ite_self _)

/-- All events of a job with a name happen before anything is written. -/
theorem run_events (hname : IsIdentifier job.name) (files : Files) :
    (job.run files).events = (job.compile (files.read job.inputPath)).1 := by
  rw [run_eq, if_pos ((isIdentifier_iff job.name).mpr hname)]
  rcases job.compile (files.read job.inputPath) with ⟨events, failure | contents⟩ <;> rfl

/-- The warnings of a job are the one-way links of its board, in their order. -/
theorem warnings_run {files : Files} {board : Board} (hloads : job.Loads files board) :
    (job.run files).events.filter (fun event => event.level = .warn) =
      board.oneWayLinks.map .oneWay := by
  obtain ⟨hname, hload⟩ := (job.loads_iff files board).mp hloads
  have hquiet := job.level_of_mem_load (files.read job.inputPath)
  rw [job.run_events hname, compile_events]
  generalize job.load (files.read job.inputPath) = loaded at hload hquiet
  obtain ⟨events, result⟩ := loaded
  obtain rfl : result = .ok board := hload
  have hopening : events.filter (fun event => event.level = .warn) = [] := by
    apply List.filter_eq_nil_iff.mpr
    intro event hmem
    simp [hquiet event hmem]
  have hwarnings : (board.oneWayLinks.map Event.oneWay).filter (fun event => event.level = .warn) =
      board.oneWayLinks.map .oneWay := by
    apply List.filter_eq_self.mpr
    intro event hmem
    obtain ⟨link, _, rfl⟩ := List.mem_map.mp hmem
    rfl
  rw [List.filter_append, hopening, List.nil_append,
    List.filter_cons_of_neg (by simp [Event.level]), hwarnings]

/-! ## The strict and the lenient job -/

theorem strictly_events (input : Except FileError ByteArray) :
    (job.strictly.compile input).1 = (job.leniently.compile input).1 := by
  rw [compile_events, compile_events]
  rfl

/-- Only one-way links make a difference between the strict job and the lenient one. -/
theorem compile_strictly_eq {input : Except FileError ByteArray}
    (hanswered : ∀ board, (job.load input).2 = .ok board → board.oneWayLinks = []) :
    job.strictly.compile input = job.leniently.compile input := by
  apply Prod.ext (job.strictly_events input)
  have hloads : job.strictly.load input = job.load input ∧
      job.leniently.load input = job.load input := ⟨rfl, rfl⟩
  rw [compile_result, compile_result, hloads.1, hloads.2]
  cases hload : (job.load input).2 with
  | error failure => rfl
  | ok board => simp [hanswered board hload, render, strictly, leniently]

/-- Strictness only adds a refusal.  Of a board with one-way links the strict job reports
how many there are and changes nothing; it has the events of the lenient job, and their
warnings are the one-way links in their order.  In all other cases the two jobs do the
same, and the lenient one never refuses a board for its links. -/
theorem strictly_only_refuses (files : Files) :
    (∀ board, job.Loads files board → board.oneWayLinks ≠ [] →
      (job.strictly.run files).result = .error (.oneWayLinks board.oneWayLinks.length) ∧
      (job.strictly.run files).files = files ∧
      (job.strictly.run files).events = (job.leniently.run files).events ∧
      (job.strictly.run files).events.filter (fun event => event.level = .warn) =
        board.oneWayLinks.map .oneWay) ∧
    ((∀ board, job.Loads files board → board.oneWayLinks = []) →
      job.strictly.run files = job.leniently.run files) ∧
    ∀ count, (job.leniently.run files).result ≠ .error (.oneWayLinks count) := by
  refine ⟨?_, ?_, ?_⟩
  · intro board hloads honeWay
    have hends := job.strictly.ends_run files
    have hresult := (hends.oneWayLinks_iff _).mpr ⟨board, hloads, ⟨rfl, honeWay⟩, rfl⟩
    refine ⟨hresult, hends.files_eq_of_refused hresult (by simp), ?_, warnings_run _ hloads⟩
    rw [run_events job.strictly hloads.1, run_events job.leniently hloads.1]
    exact job.strictly_events _
  · intro hanswered
    by_cases hname : IsIdentifier job.name
    · have hcompile : job.strictly.compile (files.read job.strictly.inputPath) =
          job.leniently.compile (files.read job.leniently.inputPath) :=
        job.compile_strictly_eq fun board hload =>
          hanswered board ((job.loads_iff files board).mpr ⟨hname, hload⟩)
      rw [run_eq, run_eq, hcompile]
      rfl
    · have hrefused : ¬isIdentifier job.name = true :=
        fun hidentifier => hname ((isIdentifier_iff job.name).mp hidentifier)
      rw [run_eq, run_eq]
      exact (if_neg hrefused).trans (if_neg hrefused).symm
  · intro count hresult
    obtain ⟨_, _, hrefuses, _⟩ :=
      ((job.leniently.ends_run files).oneWayLinks_iff count).mp hresult
    simp [Refuses, leniently] at hrefuses

/-- The road of one chart is slanted past the junction below it, and the other chart is
missing. -/
theorem strictly_refuses_slanted_road :
    ∃ (bent absent : Job) (files : Files) (board : Board),
      bent = ⟨"bent", "charts", "out", .header, false⟩ ∧
        absent = ⟨"absent", "charts", "out", .header, false⟩ ∧
        files = ⟨[(["charts"], .directory), (["charts", "bent.txt"], .file "/\n.\n".toUTF8)], []⟩ ∧
        bent.Loads files board ∧ board.oneWayLinks ≠ [] ∧
        (bent.strictly.run files).result = .error (.oneWayLinks 1) ∧
        (bent.strictly.run files).events.filter (fun event => event.level = .warn) =
          [.oneWay ⟨⟨.junction, 0⟩, .clock12, ⟨.road, 0⟩⟩] ∧
        (∀ board, ¬absent.Loads files board) ∧
        absent.strictly.run files = absent.leniently.run files := by
  have hparse : ∃ board, Board.parse "/\n.\n".toList = .ok board ∧
      board.oneWayLinks = [⟨⟨.junction, 0⟩, .clock12, ⟨.road, 0⟩⟩] := ⟨_, rfl, rfl⟩
  obtain ⟨board, hparse, honeWay⟩ := hparse
  refine ⟨_, _, _, board, rfl, rfl, rfl, ?_⟩
  have hloads : Loads ⟨"bent", "charts", "out", .header, false⟩
      ⟨[(["charts"], .directory), (["charts", "bent.txt"], .file "/\n.\n".toUTF8)], []⟩ board :=
    ⟨(isIdentifier_iff _).mp rfl, "/\n.\n", rfl, hparse⟩
  have habsent : ∀ board, ¬Loads ⟨"absent", "charts", "out", .header, false⟩
      ⟨[(["charts"], .directory), (["charts", "bent.txt"], .file "/\n.\n".toUTF8)], []⟩ board := by
    rintro _ ⟨_, text, hread, _⟩
    cases hread
  have hsome : board.oneWayLinks ≠ [] := by simp [honeWay]
  obtain ⟨hresult, _, _, hwarnings⟩ := (strictly_only_refuses _ _).1 board hloads hsome
  rw [honeWay] at hresult hwarnings
  exact ⟨hloads, hsome, hresult, hwarnings, habsent,
    (strictly_only_refuses _ _).2.1 fun board hother => absurd hother (habsent board)⟩

end Job

end HexChart
