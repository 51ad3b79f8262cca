import MarkupLint.Proofs.PathOrder
import MarkupLint.Proofs.Schedule

/-!
Files that are linted side by side do not disturb each other. A run lets the jobs take their turns
round after round; it is one of the schedules (`Batch.Reaches`), and since the first job that
can go on does so in every round, it comes to an end. Main statement: a run over paths gives
one report for each file that is found, in the order of paths, and each is the report on that
file by itself; and this is so after every schedule that the limit of files in progress allows.
-/
namespace MarkupLint

namespace Batch

variable {linter : Linter} {files : List SourceFile} {batch : Batch}
  (uninterrupted : ∀ file ∈ files, file.content.reading ≠ .interrupt)

/-! ### The run -/

variable (linter) in
/-- What some schedule leads to. -/
def Reaches (batch later : Batch) : Prop :=
  ∃ schedule, later = batch.follow linter schedule

theorem Reaches.refl (batch : Batch) : Reaches linter batch batch :=
  ⟨[], rfl⟩

theorem Reaches.step {later : Batch} {index : Nat}
    (reaches : Reaches linter (batch.step linter index) later) : Reaches linter batch later := by
  obtain ⟨schedule, rfl⟩ := reaches
  exact ⟨index :: schedule, rfl⟩

theorem Reaches.trans {between later : Batch} (first : Reaches linter batch between)
    (second : Reaches linter between later) : Reaches linter batch later := by
  obtain ⟨schedule, rfl⟩ := first
  obtain ⟨rest, rfl⟩ := second
  exact ⟨schedule ++ rest, List.foldl_append.symm⟩

theorem reaches_advance (index limit : Nat) (batch : Batch) :
    Reaches linter batch (batch.advance linter index limit) := by
  induction limit generalizing batch with
  | zero => exact .refl batch
  | succ limit ih =>
    rw [advance]
    split
    next => exact Reaches.step (.refl _)
    next => exact Reaches.step (ih _)

theorem reaches_carryOn (batch : Batch) (index : Nat) :
    Reaches linter batch (batch.carryOn linter index) := by
  unfold carryOn
  split
  next task _ => exact reaches_advance index _ batch
  next => exact .refl batch

theorem reaches_turn (batch : Batch) (index : Nat) :
    Reaches linter batch (batch.turn linter index) := by
  unfold turn
  split
  next => exact Reaches.step (reaches_carryOn _ index)
  next => exact reaches_carryOn batch index

theorem reaches_turns (places : List Nat) (batch : Batch) :
    Reaches linter batch (places.foldl (turn linter) batch) := by
  induction places generalizing batch with
  | nil => exact .refl batch
  | cons index rest ih => exact (reaches_turn batch index).trans (ih _)

theorem reaches_rounds (limit : Nat) (batch : Batch) :
    Reaches linter batch (batch.rounds linter limit) := by
  induction limit generalizing batch with
  | zero => exact .refl batch
  | succ limit ih =>
    rw [rounds]
    split
    next => exact .refl batch
    next => exact (reaches_turns _ batch).trans (ih _)

include uninterrupted

theorem Reaches.keeps {later : Batch} (reaches : Reaches linter batch later)
    (keeps : Keeps linter files batch) : Keeps linter files later := by
  obtain ⟨schedule, rfl⟩ := reaches
  exact keeps_follow uninterrupted keeps schedule

theorem Reaches.work_le {later : Batch} (reaches : Reaches linter batch later)
    (keeps : Keeps linter files batch) : later.work linter ≤ batch.work linter := by
  obtain ⟨schedule, rfl⟩ := reaches
  induction schedule generalizing batch with
  | nil => exact Nat.le_refl _
  | cons index rest ih =>
    exact (ih (keeps_step uninterrupted keeps index)).trans (work_step_le uninterrupted keeps index)

/-- The turn of a job that can go on takes a step at least. -/
theorem work_turn_lt (keeps : Keeps linter files batch) {index : Nat}
    (able : batch.canGoOn linter index = true) :
    (batch.turn linter index).work linter < batch.work linter := by
  have less := work_step_lt uninterrupted keeps able
  have later := keeps_step uninterrupted keeps index
  unfold turn
  cases stage : batch.stage? index with
  | none => simp [canGoOn, stage] at able
  | some now =>
    cases now with
    | done report => simp [canGoOn, stage] at able
    | waiting =>
      exact Nat.lt_of_le_of_lt ((reaches_carryOn _ index).work_le uninterrupted later) less
    | running task =>
      obtain ⟨job, found, running⟩ := Option.map_eq_some_iff.mp stage
      have unfinished := keeps.lively job (List.mem_of_getElem? found) task running
      obtain ⟨limit, more⟩ :=
        Nat.exists_eq_succ_of_ne_zero (Task.fuel_ne_zero linter.pipeline unfinished)
      simp only [carryOn, stage, more, advance]
      split
      next => exact less
      next =>
        exact Nat.lt_of_le_of_lt ((reaches_advance index _ _).work_le uninterrupted later) less

theorem turn_of_stuck (keeps : Keeps linter files batch) {index : Nat}
    (stuck : batch.canGoOn linter index = false) : batch.turn linter index = batch := by
  have same := step_of_stuck uninterrupted keeps stuck
  unfold turn
  cases stage : batch.stage? index with
  | none => simp [carryOn, stage]
  | some now =>
    cases now with
    | done report => simp [carryOn, stage]
    | waiting => simp [carryOn, same, stage]
    | running task => simp [canGoOn, stage] at stuck

/-- In a round the first job that can go on does. -/
theorem work_turns_lt (keeps : Keeps linter files batch) (places : List Nat) {index : Nat}
    (listed : index ∈ places) (able : batch.canGoOn linter index = true) :
    (places.foldl (turn linter) batch).work linter < batch.work linter := by
  induction places with
  | nil => cases listed
  | cons first rest ih =>
    rw [List.foldl_cons]
    cases here : batch.canGoOn linter first with
    | true =>
      have turned := (reaches_turn batch first).keeps uninterrupted keeps
      exact Nat.lt_of_le_of_lt ((reaches_turns rest _).work_le uninterrupted turned)
        (work_turn_lt uninterrupted keeps here)
    | false =>
      -- the batch is as it was, so the job that could go on still can
      rw [turn_of_stuck uninterrupted keeps here]
      rcases List.mem_cons.mp listed with rfl | later
      · exact absurd able (by simp [here])
      · exact ih later

/-- As many rounds as there is work bring every job to its end. -/
theorem isDone_rounds (places : 1 ≤ linter.scan.maxConcurrency) (limit : Nat)
    (keeps : Keeps linter files batch) (enough : batch.work linter ≤ limit) :
    (batch.rounds linter limit).isDone = true := by
  induction limit generalizing batch with
  | zero =>
    -- a job that could go on would leave less work than none
    by_contra unended
    obtain ⟨index, able⟩ := exists_canGoOn places (eq_false_of_ne_true unended)
    have less := work_step_lt uninterrupted keeps able
    omega
  | succ limit ih =>
    rw [rounds]
    split
    next ended => simpa [keeps.unbroken] using ended
    next unended =>
      obtain ⟨index, able⟩ := exists_canGoOn places (by simpa [keeps.unbroken] using unended)
      have inside : index < batch.jobs.length := by
        by_contra outside
        simp [canGoOn, stage?, List.getElem?_eq_none (Nat.le_of_not_lt outside)] at able
      have less := work_turns_lt uninterrupted keeps (List.range batch.jobs.length)
        (List.mem_range.mpr inside) able
      exact ih ((reaches_turns _ batch).keeps uninterrupted keeps)
        (by rw [round]; omega)

/-! ### Isolation -/

/-- What is settled of a batch at any moment of a run, when `reports` are the reports on its
files by themselves. -/
structure Isolates (linter : Linter) (reports : List FileReport) (batch : Batch) : Prop where
  /-- No more files are in progress than are allowed. -/
  bounded : batch.inProgress ≤ linter.scan.maxConcurrency
  /-- A file that is done has its own report, whatever becomes of the others. -/
  told : ∀ place report, batch.stage? place = some (.done report) → reports[place]? = some report
  /-- A step that does anything brings the end nearer. -/
  nearer : ∀ place, batch.step linter place = batch ∨
    (batch.step linter place).work linter < batch.work linter
  /-- A batch in which no step does anything is at its end, with all the reports. -/
  whole : (∀ place, batch.step linter place = batch) → batch.reports = reports

theorem Keeps.isolates (keeps : Keeps linter files batch)
    (places : 1 ≤ linter.scan.maxConcurrency) {reports : List FileReport}
    (alone : reports.map some = files.map linter.report?) : Isolates linter reports batch where
  bounded := keeps.bounded
  told := by
    intro place report stage
    obtain ⟨job, found, done⟩ := Option.map_eq_some_iff.mp stage
    have expected : (reports.map some)[place]? = some (some report) := by
      rw [alone, ← keeps.outlook_eq, List.getElem?_map, found]
      simp [Job.outlook, done]
    simpa using expected
  nearer := by
    intro place
    cases able : batch.canGoOn linter place with
    | true => exact Or.inr (work_step_lt uninterrupted keeps able)
    | false => exact Or.inl (step_of_stuck uninterrupted keeps able)
  whole := by
    intro still
    have done : batch.isDone = true := by
      by_contra unended
      obtain ⟨place, able⟩ := exists_canGoOn places (eq_false_of_ne_true unended)
      have less := work_step_lt uninterrupted keeps able
      rw [still place] at less
      exact Nat.lt_irrefl _ less
    have same := (reports_of_isDone keeps done).trans alone.symm
    exact List.map_injective_iff.mpr (fun _ _ => Option.some.inj) same

end Batch

theorem Linter.paths_of_reports (linter : Linter) {reports : List FileReport}
    {files : List SourceFile} (alone : reports.map some = files.map linter.report?) :
    reports.map (·.path) = files.map (·.path.text) := by
  apply List.map_injective_iff.mpr (fun _ _ => Option.some.inj)
  calc (reports.map (·.path)).map some
      = (files.map linter.report?).map (Option.map (·.path)) := by simp [← alone]
    _ = (files.map (·.path.text)).map some := by
        rw [List.map_map, List.map_map]
        apply List.map_congr_left
        intro file member
        obtain ⟨report, -, reported⟩ := List.mem_map.mp (alone ▸ List.mem_map_of_mem member)
        simp [← reported, (linter.report_spec reported.symm).1]

/-- Files are isolated from each other. Whatever comes of each file, a run over paths gives one
report for each file that is found, in the order of paths, and each is the report on that file by
itself. The run is one of the schedules that the limit allows, and after any of them no more
files are in progress than are allowed and no file has another report. -/
theorem Linter.lintPaths_isolates (linter : Linter) (project : Project) (paths : List Path)
    (files : List SourceFile) (places : 1 ≤ linter.scan.maxConcurrency)
    (found : (project.discover linter.scan paths).value = .ok files)
    (uninterrupted : ∀ file ∈ files, file.content.reading ≠ .interrupt) :
    ∃ reports, (linter.lintPaths project paths).value = .ok reports ∧
      reports.map some = files.map linter.report? ∧
      reports.map (·.path) = files.map (·.path.text) ∧
      files.Pairwise (fun file later => file.path.parts < later.path.parts) ∧
      (∀ report ∈ reports, report.skipped = true → report.diagnostics = []) ∧
      (∃ schedule, (Batch.ofFiles files).run linter =
        (Batch.ofFiles files).follow linter schedule) ∧
      ∀ schedule, Batch.Isolates linter reports ((Batch.ofFiles files).follow linter schedule) := by
  have start : Batch.Keeps linter files (Batch.ofFiles files) := Batch.keeps_ofFiles files
  have reaches : Batch.Reaches linter (Batch.ofFiles files) ((Batch.ofFiles files).run linter) :=
    Batch.reaches_rounds _ _
  have keeps := reaches.keeps uninterrupted start
  have done : ((Batch.ofFiles files).run linter).isDone = true :=
    Batch.isDone_rounds uninterrupted places _ start (Nat.le_refl _)
  have alone := Batch.reports_of_isDone keeps done
  refine ⟨((Batch.ofFiles files).run linter).reports, ?_, alone, ?_, ?_, ?_, reaches, ?_⟩
  · simp [lintPaths, found, keeps.unbroken]
  · exact linter.paths_of_reports alone
  · exact project.inPathOrder_discover linter.scan found
  · intro report member skipped
    obtain ⟨file, -, reported⟩ := List.mem_map.mp (alone ▸ List.mem_map_of_mem member)
    exact (linter.report_spec reported).2.1 skipped
  · intro schedule
    exact (Batch.keeps_follow uninterrupted start schedule).isolates uninterrupted places alone

/-- Three files of which one can be in progress at a time: one that is no text, one whose
validation goes wrong, and one with a run that is checked. -/
theorem Linter.lintPaths_isolates_one_place :
    let linter : Linter :=
      { pipeline :=
          { checkers := [{ name := "c", run := fun _ => .ok [⟨"m", "r"⟩] }], timeout := .unlimited }
        scan := { maxConcurrency := 1 }
        fault? := fun task => if task.file = "b.tsx" then some "no such rule" else none }
    let tree : SourceNode := .mk "program" ⟨0, 3, 0⟩ [.mk "jsx_text" ⟨0, 3, 0⟩ []]
    let bad : FileContent := { bytes := [255] }
    let good : FileContent := { bytes := [116, 101, 104], reading := .tree tree }
    let project : Project :=
      { root := .folder [("c.tsx", .file good), ("b.tsx", .file good), ("a.tsx", .file bad)] }
    let files : List SourceFile :=
      [⟨⟨"", ["a.tsx"]⟩, bad⟩, ⟨⟨"", ["b.tsx"]⟩, good⟩, ⟨⟨"", ["c.tsx"]⟩, good⟩]
    let reports : List FileReport :=
      [⟨"a.tsx", [], true⟩, ⟨"b.tsx", [], true⟩, ⟨"c.tsx", [⟨1, "m", "r", "c", "c.tsx"⟩], false⟩]
    (project.discover linter.scan [{}]).value = .ok files ∧
      (linter.lintPaths project [{}]).value = .ok reports ∧
      ∀ schedule, Batch.Isolates linter reports ((Batch.ofFiles files).follow linter schedule) := by
  intro linter tree bad good project files reports
  have found : (project.discover linter.scan [{}]).value = .ok files := rfl
  obtain ⟨made, ran, -, -, -, -, -, isolates⟩ :=
    lintPaths_isolates linter project [{}] files (Nat.le_refl 1) found
      (by simp [files, bad, good])
  have told : (linter.lintPaths project [{}]).value.toOption = some reports := by decide +kernel
  obtain rfl : made = reports := by simpa [ran, Except.toOption] using told
  exact ⟨found, ran, isolates⟩

end MarkupLint
