import MarkupLint.Project.Lint

/-!
Linting many files, of which only so many are in progress at a time.  A job waits until a
place is free, opens its file, takes the steps of its validation, and ends with a report.
Which job goes on next is up to a schedule; jobs only share the parser's grammars.

`Batch.run` lets every job go on until it has to wait for a checker, in the order of the
files, over and over.
-/
namespace MarkupLint

inductive Stage where
  | waiting
  | running (task : Task)
  | done (report : FileReport)

structure Job where
  file : SourceFile
  stage : Stage := .waiting

namespace Job

def isRunning (job : Job) : Bool :=
  match job.stage with
  | .running _ => true
  | _ => false

def report? (job : Job) : Option FileReport :=
  match job.stage with
  | .done report => some report
  | _ => none

/-- A task in progress, or its report once it is finished. -/
def settle (file : SourceFile) (task : Task) : Stage :=
  if task.finished then .done { path := file.path.text, diagnostics := task.progress.diagnostics }
  else .running task

/-- One step of a validation in progress.  If anything goes wrong, the file is skipped. -/
def goOn (linter : Linter) (file : SourceFile) (task : Task) : Logged Stage :=
  match linter.fault? task with
  | some _ =>
      { value := .done { path := file.path.text, skipped := true }
        log := [Linter.unexpected file.path.text] }
  | none =>
      let moved := task.step linter.pipeline
      ⟨settle file moved, Event.records (Task.newEvents task moved)⟩

/-- Steps that a job can still take. -/
def work (linter : Linter) (job : Job) : Nat :=
  match job.stage with
  | .waiting =>
      match (Linter.openFile {} job.file).2.value with
      | .ready document => (Task.ofDocument document).fuel linter.pipeline + 1
      | _ => 1
  | .running task => task.fuel linter.pipeline
  | .done _ => 0

def workAll (linter : Linter) : List Job → Nat
  | [] => 0
  | job :: rest => job.work linter + workAll linter rest

end Job

structure Batch where
  jobs : List Job
  parser : Parser := {}
  log : List LogRecord := []
  /-- Set when the run is broken off; nothing happens after that. -/
  interrupted : Bool := false

namespace Batch

def ofFiles (files : List SourceFile) : Batch :=
  { jobs := files.map fun file => { file := file } }

def inProgress (batch : Batch) : Nat :=
  batch.jobs.countP Job.isRunning

/-- Put a job back in its place, with the records it made. -/
def update (batch : Batch) (index : Nat) (job : Job) (log : List LogRecord) : Batch :=
  { batch with jobs := batch.jobs.set index job, log := batch.log ++ log }

/-- Open the file of a waiting job. -/
def start (batch : Batch) (index : Nat) (job : Job) : Batch :=
  let (parser, opened) := Linter.openFile batch.parser job.file
  let ready := { batch with parser := parser }
  match opened.value with
  | .skipped =>
      ready.update index
        { job with stage := .done { path := job.file.path.text, skipped := true } } opened.log
  | .ready document =>
      ready.update index { job with stage := .running (Task.ofDocument document) } opened.log
  | .interrupted => { ready with log := ready.log ++ opened.log, interrupted := true }

/-- One step of a job: a waiting one starts if a place is free, a running one goes on. -/
def step (linter : Linter) (batch : Batch) (index : Nat) : Batch :=
  if batch.interrupted then batch
  else
    match batch.jobs[index]? with
    | none => batch
    | some job =>
        match job.stage with
        | .waiting =>
            if batch.inProgress < linter.scan.maxConcurrency then batch.start index job else batch
        | .running task =>
            let went := Job.goOn linter job.file task
            batch.update index { job with stage := went.value } went.log
        | .done _ => batch

/-- What becomes of a batch when jobs take steps in the order of a schedule. -/
def follow (linter : Linter) (batch : Batch) (schedule : List Nat) : Batch :=
  schedule.foldl (step linter) batch

def stage? (batch : Batch) (index : Nat) : Option Stage :=
  (batch.jobs[index]?).map (·.stage)

/-- Whether the next step of the job at a place puts a question for which the job waits. -/
def waitsAt (linter : Linter) (batch : Batch) (index : Nat) : Bool :=
  match batch.stage? index with
  | some (.running task) => task.waits linter.pipeline
  | _ => false

/-- Steps of a job up to the first for which it waits, or to its end. -/
def advance (linter : Linter) (index : Nat) : Nat → Batch → Batch
  | 0, batch => batch
  | n + 1, batch =>
      if batch.waitsAt linter index then batch.step linter index
      else advance linter index n (batch.step linter index)

/-- Let a job in progress go on until it waits for a checker. -/
def carryOn (linter : Linter) (batch : Batch) (index : Nat) : Batch :=
  match batch.stage? index with
  | some (.running task) => batch.advance linter index (task.fuel linter.pipeline)
  | _ => batch

/-- Let a job start, if it waits for a place, and go on. -/
def turn (linter : Linter) (batch : Batch) (index : Nat) : Batch :=
  match batch.stage? index with
  | some .waiting => (batch.step linter index).carryOn linter index
  | _ => batch.carryOn linter index

def round (linter : Linter) (batch : Batch) : Batch :=
  (List.range batch.jobs.length).foldl (turn linter) batch

/-- Whether every job has its report. -/
def isDone (batch : Batch) : Bool :=
  batch.jobs.all (·.report?.isSome)

def rounds (linter : Linter) : Nat → Batch → Batch
  | 0, batch => batch
  | n + 1, batch =>
      if batch.interrupted || batch.isDone then batch
      else rounds linter n (batch.round linter)

def work (linter : Linter) (batch : Batch) : Nat :=
  Job.workAll linter batch.jobs

/-- Every round takes a step at least, so there are no more rounds than steps. -/
def run (linter : Linter) (batch : Batch) : Batch :=
  batch.rounds linter (batch.work linter)

def reports (batch : Batch) : List FileReport :=
  batch.jobs.filterMap Job.report?

end Batch

namespace Linter

/-- Why a run over paths has no reports: it was broken off, or a path was refused. -/
inductive RunError where
  | interrupted
  | refused (error : ReadError)
  deriving DecidableEq, Repr

/-- Lint the files that paths stand for; the reports come in the order of the files. -/
def lintPaths (linter : Linter) (project : Project) (paths : List Path) :
    Logged (Except RunError (List FileReport)) :=
  let found := project.discover linter.scan paths
  match found.value with
  | .error e => ⟨.error (.refused e), found.log⟩
  | .ok files =>
      let ended := (Batch.ofFiles files).run linter
      { value := if ended.interrupted then .error .interrupted else .ok ended.reports
        log := found.log ++ ⟨.info, .linting,
          "Linting " ++ toString files.length ++ " file(s)"⟩ :: ended.log }

end Linter

end MarkupLint
