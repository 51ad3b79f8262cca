import MarkupLint.Check.Validate

/-!
Validations side by side.  A task is one validation that can be stopped between any two of
its steps: nodes still to visit, queries still to put, and what it has found so far.  All
that a task needs it carries itself, so it does not matter when the others take their
turns.

`Task.run` finishes a task on its own; `together` gives every task its turn until it has to
wait for a checker.
-/
namespace MarkupLint

structure Task where
  file : String
  visits : List Visit
  region : Region := none
  queries : List Pipeline.Query := []
  progress : Pipeline.Progress := {}
  finished : Bool := false

namespace Task

def ofDocument (document : Document) : Task :=
  { file := document.fileId, visits := document.visits }

/-- Put the next query, else visit the next node, else finish. -/
def step (p : Pipeline) (task : Task) : Task :=
  match task.queries, task.visits with
  | query :: rest, _ =>
      { task with queries := rest, progress := task.progress.consult p task.file query }
  | [], visit :: rest =>
      let step := p.extraction.step task.region visit
      { task with
        visits := rest
        region := step.region
        queries := step.segment.elim [] p.queries
        progress := task.progress.note step.log }
  | [], [] =>
      if task.finished then task
      else { task with finished := true, progress := task.progress.finish task.file }

/-- Steps that a task can still take: each node leads to at most one query for every
checker. -/
def fuel (p : Pipeline) (task : Task) : Nat :=
  task.queries.length + task.visits.length * (p.checkers.length + 1) +
    if task.finished then 0 else 1

def steps (p : Pipeline) : Nat → Task → Task
  | 0, task => task
  | n + 1, task => steps p n (task.step p)

/-- The task run to its end. -/
def run (p : Pipeline) (task : Task) : Task :=
  task.steps p (task.fuel p)

/-- Whether the next step puts a query for which the task waits while others go on. -/
def waits (p : Pipeline) (task : Task) : Bool :=
  match task.queries with
  | query :: _ =>
      (task.progress.memo.lookup (query.index, query.text)).isNone &&
        p.timeout.isUsable && (p.timeout != .unlimited || query.checker.yields)
  | [] => false

/-- Steps up to the first for which the task waits, or to the end. -/
def turn (p : Pipeline) : Nat → Task → Task
  | 0, task => task
  | n + 1, task => if task.waits p then task.step p else turn p n (task.step p)

/-- The events that a later state of a task has and an earlier one has not. -/
def newEvents (earlier later : Task) : List Event :=
  later.progress.trace.drop earlier.progress.trace.length

/-- One turn for every task in order, with the events of all. -/
def round (p : Pipeline) : List Task → List Task × List Event
  | [] => ([], [])
  | task :: rest =>
      let turned := task.turn p (task.fuel p)
      let (others, events) := round p rest
      (turned :: others, newEvents task turned ++ events)

def rounds (p : Pipeline) : Nat → List Task → List Task × List Event
  | 0, tasks => (tasks, [])
  | n + 1, tasks =>
      let (turned, events) := round p tasks
      let (ended, later) := rounds p n turned
      (ended, events ++ later)

/-- Tasks run side by side to their ends. -/
def together (p : Pipeline) (tasks : List Task) : List Task × List Event :=
  rounds p ((tasks.map (fuel p)).foldl max 0) tasks

end Task

end MarkupLint
