import MarkupLint.Proofs.FileReport

/-!
Jobs that are linted side by side, step by step. The report that a job will end with is known at
every moment (`Job.outlook`), and no step of any job changes it: a step moves one job on
(`Job.Moves`) and leaves all others as they are (`Batch.step_cases`). Every step that does
anything takes away from the work that is left (`Batch.work_step_lt`), and as long as there is
work some job can go on (`Batch.exists_canGoOn`). Main statement: what holds of a batch at the
start, `Batch.Keeps`, holds after every schedule.
-/
namespace MarkupLint

/-! ### What one step does to one job -/

namespace Job

variable (linter : Linter)

/-- The report that a job will end with. -/
def outlook (job : Job) : Option FileReport :=
  match job.stage with
  | .waiting => linter.report? job.file
  | .running task => some ((linter.ending task).report job.file)
  | .done report => some report

/-- A validation in progress has not ended. -/
def Lively (job : Job) : Prop :=
  ∀ task, job.stage = .running task → task.finished = false

/-- All that a step can do to a job. -/
inductive Moves (job : Job) : Job → Prop where
  | skip (waiting : job.stage = .waiting)
      (opened : (Linter.openFile {} job.file).2.value = .skipped) :
      Moves job { job with stage := .done { path := job.file.path.text, skipped := true } }
  | start (document : Document) (waiting : job.stage = .waiting)
      (opened : (Linter.openFile {} job.file).2.value = .ready document) :
      Moves job { job with stage := .running (Task.ofDocument document) }
  | fail (task : Task) (reason : String) (running : job.stage = .running task)
      (wrong : linter.fault? task = some reason) :
      Moves job { job with stage := .done { path := job.file.path.text, skipped := true } }
  | goOn (task : Task) (running : job.stage = .running task) (right : linter.fault? task = none)
      (unfinished : (task.step linter.pipeline).finished = false) :
      Moves job { job with stage := .running (task.step linter.pipeline) }
  | finish (task : Task) (running : job.stage = .running task) (right : linter.fault? task = none)
      (finished : (task.step linter.pipeline).finished = true) :
      Moves job
        { job with
          stage := .done
            { path := job.file.path.text
              diagnostics := (task.step linter.pipeline).progress.diagnostics } }

variable {linter} {job moved : Job}

theorem moves_goOn {task : Task} (running : job.stage = .running task) :
    Moves linter job { job with stage := (Job.goOn linter job.file task).value } := by
  cases wrong : linter.fault? task with
  | some reason =>
    simp only [Job.goOn, wrong]
    exact .fail task reason running wrong
  | none =>
    simp only [Job.goOn, wrong, settle]
    split
    next finished => exact .finish task running wrong finished
    next unfinished => exact .goOn task running wrong (eq_false_of_ne_true unfinished)

theorem Moves.file_eq (moves : Moves linter job moved) : moved.file = job.file := by
  cases moves <;> rfl

theorem Moves.lively (moves : Moves linter job moved) : moved.Lively := by
  intro task running
  cases moves with
  | skip => cases running
  | start =>
    cases running
    rfl
  | fail => cases running
  | goOn before _ _ unfinished =>
    cases running
    exact unfinished
  | finish => cases running

/-- No step of a job changes what it will end with. -/
theorem Moves.outlook_eq (moves : Moves linter job moved) (lively : job.Lively) :
    moved.outlook linter = job.outlook linter := by
  cases moves with
  | skip waiting opened => simp only [outlook, waiting, Linter.report?, opened]
  | start document waiting opened =>
    simp only [outlook, waiting, Linter.report?, opened, Linter.validate]
  | fail task reason running wrong =>
    simp only [outlook, running, Linter.ending_of_fault (lively task running) wrong,
      Linter.Ending.report]
  | goOn task running right unfinished =>
    simp only [outlook, running, Linter.ending_step (lively task running) right]
  | finish task running right finished =>
    simp only [outlook, running, ← Linter.ending_step (lively task running) right,
      Linter.ending_of_finished finished, Linter.Ending.report]

/-- Every step takes a part of the work away. -/
theorem Moves.work_lt (moves : Moves linter job moved) (lively : job.Lively) :
    moved.work linter < job.work linter := by
  have less (task : Task) (running : job.stage = .running task) :
      (task.step linter.pipeline).fuel linter.pipeline < task.fuel linter.pipeline :=
    Task.fuel_step_lt linter.pipeline task
      (Task.fuel_ne_zero linter.pipeline (lively task running))
  cases moves with
  | skip waiting opened => simp only [work, waiting, opened, Nat.lt_one_iff]
  | start document waiting opened => simp only [work, waiting, opened, Nat.lt_add_one]
  | fail task reason running wrong =>
    simp only [work, running]
    exact Nat.zero_lt_of_lt (less task running)
  | goOn task running right unfinished =>
    simp only [work, running]
    exact less task running
  | finish task running right finished =>
    simp only [work, running]
    exact Nat.zero_lt_of_lt (less task running)

theorem workAll_set_lt {jobs : List Job} {index : Nat} (inside : index < jobs.length)
    (less : moved.work linter < jobs[index].work linter) :
    workAll linter (jobs.set index moved) < workAll linter jobs := by
  induction jobs generalizing index with
  | nil => cases inside
  | cons first rest ih =>
    cases index with
    | zero => exact Nat.add_lt_add_right less _
    | succ index => exact Nat.add_lt_add_left (ih (Nat.lt_of_succ_lt_succ inside) less) _

end Job

/-! ### What one step does to a batch -/

namespace Batch

variable (linter : Linter)

/-- Whether the job at a place can take a step now: it is in progress, or it waits and a place is
free. -/
def canGoOn (batch : Batch) (index : Nat) : Bool :=
  match batch.stage? index with
  | some .waiting => decide (batch.inProgress < linter.scan.maxConcurrency)
  | some (.running _) => true
  | _ => false

/-- What holds of a batch at every moment of a run over files. -/
structure Keeps (files : List SourceFile) (batch : Batch) : Prop where
  files_eq : batch.jobs.map (·.file) = files
  outlook_eq : batch.jobs.map (Job.outlook linter) = files.map linter.report?
  lively : ∀ job ∈ batch.jobs, job.Lively
  bounded : batch.inProgress ≤ linter.scan.maxConcurrency
  unbroken : batch.interrupted = false

variable {linter} {files : List SourceFile} {batch : Batch}

theorem keeps_ofFiles (files : List SourceFile) : Keeps linter files (ofFiles files) where
  files_eq := by simp [ofFiles, Function.comp_def]
  outlook_eq := by simp [ofFiles, Job.outlook]
  lively := by simp [ofFiles, Job.Lively]
  bounded := by simp [ofFiles, inProgress, Job.isRunning, List.countP_map, Function.comp_def]
  unbroken := rfl

/-- A step moves the job at its place on, if that job can go on, and leaves the others as they
are. It is only in starting a job that the number of those in progress may grow. -/
theorem step_cases (keeps : Keeps linter files batch)
    (uninterrupted : ∀ file ∈ files, file.content.reading ≠ .interrupt) (index : Nat) :
    (batch.canGoOn linter index = false ∧ batch.step linter index = batch) ∨
      ∃ job moved, batch.canGoOn linter index = true ∧ batch.jobs[index]? = some job ∧
        job.Moves linter moved ∧
        (batch.step linter index).jobs = batch.jobs.set index moved ∧
        (batch.step linter index).interrupted = false ∧
        (job.isRunning = true ∨ batch.inProgress < linter.scan.maxConcurrency) := by
  unfold step
  rw [if_neg (by simp [keeps.unbroken])]
  cases found : batch.jobs[index]? with
  | none => exact Or.inl ⟨by simp [canGoOn, stage?, found], rfl⟩
  | some job =>
    have listed : job.file ∈ files := by
      rw [← keeps.files_eq]
      exact List.mem_map_of_mem (List.mem_of_getElem? found)
    cases stage : job.stage with
    | done report => exact Or.inl ⟨by simp [canGoOn, stage?, found, stage], by simp [stage]⟩
    | running task =>
      refine Or.inr ⟨job, _, ?_, rfl, Job.moves_goOn stage, ?_, ?_, Or.inl ?_⟩
      · simp [canGoOn, stage?, found, stage]
      · simp [stage, update]
      · simp [stage, update, keeps.unbroken]
      · simp [Job.isRunning, stage]
    | waiting =>
      by_cases free : batch.inProgress < linter.scan.maxConcurrency
      · have able : batch.canGoOn linter index = true := by
          simp [canGoOn, stage?, found, stage, free]
        -- the batch's parser may have grammars loaded already, a lone one has none
        have same := Linter.openFile_value batch.parser job.file
        simp only [stage, if_pos free, start]
        cases opened : (Linter.openFile batch.parser job.file).2.value with
        | interrupted =>
          exact absurd (Linter.reading_of_interrupted (same ▸ opened)) (uninterrupted _ listed)
        | skipped =>
          exact Or.inr ⟨job, _, able, rfl, .skip stage (same ▸ opened), rfl, keeps.unbroken,
            Or.inr free⟩
        | ready document =>
          exact Or.inr ⟨job, _, able, rfl, .start document stage (same ▸ opened), rfl,
            keeps.unbroken, Or.inr free⟩
      · exact Or.inl ⟨by simp [canGoOn, stage?, found, stage, free], by simp [stage, free]⟩

theorem map_set_eq {α β : Type} (f : α → β) {items : List α} {item : α} {index : Nat}
    (inside : index < items.length) (same : f item = f items[index]) :
    (items.set index item).map f = items.map f := by
  rw [List.map_set, same, ← List.getElem_map f, List.set_getElem_self]
  simpa using inside

variable (uninterrupted : ∀ file ∈ files, file.content.reading ≠ .interrupt)

include uninterrupted

/-- A step keeps what holds of a batch. -/
theorem keeps_step (keeps : Keeps linter files batch) (index : Nat) :
    Keeps linter files (batch.step linter index) := by
  rcases step_cases keeps uninterrupted index with
    ⟨-, same⟩ | ⟨job, moved, -, found, moves, jobs, unbroken, room⟩
  · rw [same]
    exact keeps
  · obtain ⟨inside, rfl⟩ := List.getElem?_eq_some_iff.mp found
    have lively := keeps.lively _ (List.getElem_mem inside)
    refine ⟨?_, ?_, ?_, ?_, unbroken⟩
    · rw [jobs, map_set_eq _ inside moves.file_eq, keeps.files_eq]
    · rw [jobs, map_set_eq _ inside (moves.outlook_eq lively), keeps.outlook_eq]
    · intro job member
      rw [jobs] at member
      rcases List.mem_or_eq_of_mem_set member with old | rfl
      · exact keeps.lively job old
      · exact moves.lively
    · have bounded := keeps.bounded
      simp only [inProgress] at bounded room ⊢
      -- a job in progress was counted before, and one that starts takes a free place
      rw [jobs, List.countP_set inside]
      rcases room with running | free
      · have counted : 0 < batch.jobs.countP Job.isRunning :=
          List.countP_pos_iff.mpr ⟨_, List.getElem_mem inside, running⟩
        rw [if_pos running]
        split <;> omega
      · split <;> split <;> omega

/-- What holds of a batch holds after every schedule. -/
theorem keeps_follow (keeps : Keeps linter files batch) (schedule : List Nat) :
    Keeps linter files (batch.follow linter schedule) :=
  List.foldlRecOn schedule (step linter) keeps fun _ keeps index _ =>
    keeps_step uninterrupted keeps index

/-- A job that can go on takes a part of the work away when it does. -/
theorem work_step_lt (keeps : Keeps linter files batch) {index : Nat}
    (able : batch.canGoOn linter index = true) :
    (batch.step linter index).work linter < batch.work linter := by
  rcases step_cases keeps uninterrupted index with
    ⟨stuck, -⟩ | ⟨job, moved, -, found, moves, jobs, -, -⟩
  · exact absurd able (by simp [stuck])
  · obtain ⟨inside, rfl⟩ := List.getElem?_eq_some_iff.mp found
    rw [work, work, jobs]
    exact Job.workAll_set_lt inside (moves.work_lt (keeps.lively _ (List.getElem_mem inside)))

/-- A job that cannot go on is left as it is, and so is the batch. -/
theorem step_of_stuck (keeps : Keeps linter files batch) {index : Nat}
    (stuck : batch.canGoOn linter index = false) : batch.step linter index = batch := by
  rcases step_cases keeps uninterrupted index with ⟨-, same⟩ | ⟨_, _, able, -⟩
  · exact same
  · exact absurd able (by simp [stuck])

theorem work_step_le (keeps : Keeps linter files batch) (index : Nat) :
    (batch.step linter index).work linter ≤ batch.work linter := by
  cases able : batch.canGoOn linter index with
  | true => exact Nat.le_of_lt (work_step_lt uninterrupted keeps able)
  | false => exact Nat.le_of_eq (congrArg _ (step_of_stuck uninterrupted keeps able))

omit uninterrupted

/-- As long as a job has no report, some job can go on. -/
theorem exists_canGoOn (places : 1 ≤ linter.scan.maxConcurrency) (unended : batch.isDone = false) :
    ∃ index, batch.canGoOn linter index = true := by
  by_cases idle : batch.inProgress = 0
  -- every place is free, so a job without a report is one that waits and can start
  · simp only [isDone, List.all_eq_false] at unended
    obtain ⟨job, member, unreported⟩ := unended
    obtain ⟨index, found⟩ := List.mem_iff_getElem?.mp member
    refine ⟨index, ?_⟩
    have still := List.countP_eq_zero.mp idle job member
    cases stage : job.stage with
    | waiting => simp [canGoOn, stage?, found, stage, idle]; omega
    | running task => simp [Job.isRunning, stage] at still
    | done report => simp [Job.report?, stage] at unreported
  · obtain ⟨job, member, running⟩ := List.countP_pos_iff.mp (Nat.pos_of_ne_zero idle)
    obtain ⟨index, found⟩ := List.mem_iff_getElem?.mp member
    refine ⟨index, ?_⟩
    cases stage : job.stage with
    | waiting => simp [Job.isRunning, stage] at running
    | running task => simp [canGoOn, stage?, found, stage]
    | done report => simp [Job.isRunning, stage] at running

/-- When all jobs have their reports, these are the reports on the files by themselves. -/
theorem reports_of_isDone (keeps : Keeps linter files batch) (done : batch.isDone = true) :
    batch.reports.map some = files.map linter.report? := by
  rw [← keeps.outlook_eq, reports]
  have told (job : Job) (member : job ∈ batch.jobs) :
      ∃ report, job.report? = some report ∧ job.outlook linter = some report := by
    obtain ⟨report, reported⟩ := Option.isSome_iff_exists.mp (List.all_eq_true.mp done job member)
    refine ⟨report, reported, ?_⟩
    cases stage : job.stage with
    | waiting => simp [Job.report?, stage] at reported
    | running task => simp [Job.report?, stage] at reported
    | done report => simpa [Job.report?, Job.outlook, stage] using reported
  generalize batch.jobs = jobs at told
  induction jobs with
  | nil => rfl
  | cons job rest ih =>
    obtain ⟨report, reported, expected⟩ := told job List.mem_cons_self
    rw [List.filterMap_cons_some reported, List.map_cons, List.map_cons, expected,
      ih fun later member => told later (List.mem_cons_of_mem job member)]

end Batch

end MarkupLint
