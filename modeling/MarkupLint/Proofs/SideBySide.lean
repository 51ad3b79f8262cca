import Mathlib.Logic.Function.Iterate
import MarkupLint.Check.Interleave
import MarkupLint.Proofs.Traversal

/-!
Validations side by side do not disturb each other. What a task will have found at its end is
known at every moment (`Task.outlook`) and no step changes it, so it does not matter how the
steps of other tasks fall between its own. Main statement: after any schedule every task is
where it would be alone after as many turns, and once it has ended it has what a
validation of its document by itself gives.
-/
namespace MarkupLint.Task

open Pipeline (Progress)

/-- What a task will have found at its end: the answers to its queries, then those for the
nodes that it has still to visit. -/
def outlook (p : Pipeline) (task : Task) : Progress :=
  let answered := task.queries.foldl (Progress.consult p task.file) task.progress
  let walked := (p.extraction.walk task.region task.visits).foldl
    (Progress.advance p task.file) answered
  if task.finished then walked else walked.finish task.file

/-- A task that has ended has nothing left to do. -/
def Settled (task : Task) : Prop :=
  task.finished = true → task.queries = [] ∧ task.visits = []

/-- One turn: the task goes on until it waits for a checker, or to its end. -/
def goOn (p : Pipeline) (task : Task) : Task :=
  task.turn p (task.fuel p)

/-- Tasks that take their turns in the order of a schedule of places. -/
def follow (p : Pipeline) (tasks : List Task) (schedule : List Nat) : List Task :=
  schedule.foldl (fun tasks place => tasks.modify place (goOn p)) tasks

theorem outlook_ofDocument (p : Pipeline) (document : Document) :
    (ofDocument document).outlook p = p.validate document := by
  simp only [outlook, ofDocument, Pipeline.validate, Document.steps, List.foldl_nil,
    Bool.false_eq_true, if_false]

/-- A step does a part of what is still to do, and leaves the rest as it was. -/
theorem outlook_step (p : Pipeline) (task : Task) : (task.step p).outlook p = task.outlook p := by
  unfold step
  split
  next query rest queries => simp only [outlook, queries, List.foldl_cons]
  next visit rest queries visits =>
    simp only [outlook, queries, visits, Extraction.walk, List.foldl_cons, List.foldl_nil,
      Progress.advance]
  next queries visits =>
    split
    next => rfl
    next unfinished =>
      simp only [outlook, queries, visits, Extraction.walk, List.foldl_nil, if_true, unfinished,
        Bool.false_eq_true, if_false]

theorem settled_step (p : Pipeline) (task : Task) (settled : Settled task) :
    Settled (task.step p) := by
  unfold step
  split
  next query rest queries =>
    intro finished
    exact absurd (settled finished).1 (by simp [queries])
  next visit rest queries visits =>
    intro finished
    exact absurd (settled finished).2 (by simp [visits])
  next queries visits =>
    split
    next => exact settled
    next => exact fun _ => ⟨queries, visits⟩

theorem settled_ofDocument (document : Document) : Settled (ofDocument document) := by
  intro finished
  simp [ofDocument] at finished

/-- At its end a task has found all that it was ever going to find. -/
theorem progress_of_finished (p : Pipeline) (task : Task) (settled : Settled task)
    (finished : task.finished = true) : task.progress = task.outlook p := by
  obtain ⟨queries, visits⟩ := settled finished
  simp only [outlook, queries, visits, finished, Extraction.walk, List.foldl_nil, if_true]

theorem length_queries_le (p : Pipeline) (segment : Option Segment) :
    (segment.elim [] p.queries).length ≤ p.checkers.length := by
  cases segment with
  | none => simp
  | some segment =>
    simp only [Option.elim_some, Pipeline.queries]
    split <;> simp [Pipeline.places]

/-- Every step uses up fuel, until none is left. -/
theorem fuel_step_lt (p : Pipeline) (task : Task) (left : task.fuel p ≠ 0) :
    (task.step p).fuel p < task.fuel p := by
  unfold step
  split
  next query rest queries =>
    simp only [fuel, queries, List.length_cons]
    omega
  next visit rest queries visits =>
    have opened := length_queries_le p (p.extraction.step task.region visit).segment
    simp only [fuel, queries, visits, List.length_cons, List.length_nil, Nat.add_mul]
    omega
  next queries visits =>
    split
    next finished => simp [fuel, queries, visits, finished] at left
    next unfinished => simp [fuel, queries, visits, unfinished]

theorem finished_of_fuel_eq_zero (p : Pipeline) (task : Task) (empty : task.fuel p = 0) :
    task.finished = true := by
  unfold fuel at empty
  by_contra unfinished
  rw [if_neg unfinished] at empty
  omega

theorem step_of_fuel_eq_zero (p : Pipeline) (task : Task) (empty : task.fuel p = 0) :
    task.step p = task := by
  have finished := finished_of_fuel_eq_zero p task empty
  simp only [fuel, finished, if_true, Nat.add_zero, Nat.add_eq_zero_iff, Nat.mul_eq_zero,
    List.length_eq_zero_iff, Nat.succ_ne_zero, or_false] at empty
  simp [step, empty.1, empty.2, finished]

theorem fuel_step_le (p : Pipeline) (task : Task) : (task.step p).fuel p ≤ task.fuel p := by
  by_cases empty : task.fuel p = 0
  · exact Nat.le_of_eq (congrArg (fuel p) (step_of_fuel_eq_zero p task empty))
  · exact Nat.le_of_lt (fuel_step_lt p task empty)

/-- A turn is made of steps, so it keeps what every step keeps. -/
theorem turn_preserves (p : Pipeline) (kept : Task → Prop)
    (preserves : ∀ task, kept task → kept (task.step p)) (limit : Nat) (task : Task)
    (start : kept task) : kept (task.turn p limit) := by
  induction limit generalizing task with
  | zero => exact start
  | succ limit ih =>
    rw [turn]
    split
    next => exact preserves task start
    next => exact ih (task.step p) (preserves task start)

theorem outlook_goOn (p : Pipeline) (task : Task) : (task.goOn p).outlook p = task.outlook p :=
  turn_preserves p (fun later => later.outlook p = task.outlook p)
    (fun later same => (outlook_step p later).trans same) _ task rfl

theorem settled_goOn (p : Pipeline) (task : Task) (settled : Settled task) :
    Settled (task.goOn p) :=
  turn_preserves p Settled (settled_step p) _ task settled

/-- A turn takes a step at least, unless nothing is left to do. -/
theorem fuel_goOn_le (p : Pipeline) (task : Task) :
    (task.goOn p).fuel p ≤ task.fuel p - 1 := by
  unfold goOn
  cases left : task.fuel p with
  | zero => simp [turn, left]
  | succ limit =>
    have stepped : (task.step p).fuel p ≤ limit := by
      have less := fuel_step_lt p task (by omega)
      omega
    rw [turn, Nat.add_sub_cancel]
    split
    next => exact stepped
    next =>
      exact turn_preserves p (fun later => later.fuel p ≤ limit)
        (fun later small => Nat.le_trans (fuel_step_le p later) small) limit _ stepped

section Turns

variable (p : Pipeline) (task : Task)

theorem outlook_iterate (turns : Nat) : ((goOn p)^[turns] task).outlook p = task.outlook p := by
  induction turns with
  | zero => rfl
  | succ turns ih => rw [Function.iterate_succ_apply', outlook_goOn, ih]

theorem settled_iterate (settled : Settled task) (turns : Nat) :
    Settled ((goOn p)^[turns] task) := by
  induction turns with
  | zero => exact settled
  | succ turns ih =>
    rw [Function.iterate_succ_apply']
    exact settled_goOn p _ ih

theorem fuel_iterate_le (turns : Nat) :
    ((goOn p)^[turns] task).fuel p ≤ task.fuel p - turns := by
  induction turns with
  | zero => exact Nat.le_refl _
  | succ turns ih =>
    have turn := fuel_goOn_le p ((goOn p)^[turns] task)
    rw [Function.iterate_succ_apply']
    omega

/-- As many turns as there is fuel bring every task to its end. -/
theorem finished_iterate (turns : Nat) (enough : task.fuel p ≤ turns) :
    ((goOn p)^[turns] task).finished = true := by
  have left := fuel_iterate_le p task turns
  exact finished_of_fuel_eq_zero p _ (by omega)

end Turns

/-- A task that has ended has what a validation of its document by itself gives. -/
theorem progress_iterate (p : Pipeline) (document : Document) (turns : Nat)
    (finished : ((goOn p)^[turns] (ofDocument document)).finished = true) :
    ((goOn p)^[turns] (ofDocument document)).progress = p.validate document := by
  have settled := settled_iterate p (ofDocument document) (settled_ofDocument document) turns
  rw [progress_of_finished p _ settled finished, outlook_iterate, outlook_ofDocument]

/-- A turn of one task leaves all others where they were. -/
theorem getElem?_follow (p : Pipeline) (tasks : List Task) (schedule : List Nat) (place : Nat) :
    (follow p tasks schedule)[place]? =
      (tasks[place]?).map fun task => (goOn p)^[schedule.count place] task := by
  induction schedule generalizing tasks with
  | nil => simp [follow]
  | cons next rest ih =>
    have turned := ih (tasks.modify next (goOn p))
    rw [follow, List.foldl_cons]
    rw [follow] at turned
    rw [turned, List.getElem?_modify]
    by_cases here : next = place
    · rw [here, List.count_cons_self]
      cases tasks[place]? <;> simp
    · rw [List.count_cons_of_ne here]
      cases tasks[place]? <;> simp [here]

/-- Validations do not interfere: whatever the schedule and whatever the other documents
hold, each is where it would be alone after as many turns. It ends, after at most as many
turns as it has fuel, and then has exactly what it gives when run alone. -/
theorem follow_eq_alone (p : Pipeline) (documents : List Document) (schedule : List Nat)
    (place : Nat) (document : Document) (listed : documents[place]? = some document) :
    ∃ task, (follow p (documents.map ofDocument) schedule)[place]? = some task ∧
      task = (goOn p)^[schedule.count place] (ofDocument document) ∧
      (task.finished = true → task.progress = p.validate document) ∧
      ((ofDocument document).fuel p ≤ schedule.count place → task.finished = true) := by
  refine ⟨(goOn p)^[schedule.count place] (ofDocument document), ?_, rfl, ?_, ?_⟩
  · rw [getElem?_follow, List.getElem?_map, listed]
    rfl
  · exact progress_iterate p document (schedule.count place)
  · exact finished_iterate p (ofDocument document) (schedule.count place)

/-- A document whose region never ends beside one with a run that is checked, by a checker that
finds fault with every text. -/
theorem follow_eq_alone_open_region :
    let open? : Document :=
      ⟨"a", .mk { kind := .other } [.mk { kind := .comment, text := "@text-lint ignore start" } []]⟩
    let plain : Document :=
      ⟨"b", .mk { kind := .other } [.mk { kind := .textRun, text := "teh", line := 4 } []]⟩
    let p : Pipeline :=
      { checkers := [{ name := "c", run := fun _ => .ok [⟨"m", "r"⟩] }], timeout := .unlimited }
    [open?, plain][1]? = some plain ∧
      ∃ task, (follow p ([open?, plain].map ofDocument) [0, 1, 1, 0, 1])[1]? = some task ∧
        task.finished = true ∧
        task.progress.diagnostics = [⟨4, "m", "r", "c", "b"⟩] := by
  intro open? plain p
  obtain ⟨task, placed, -, whole, ended⟩ :=
    follow_eq_alone p [open?, plain] [0, 1, 1, 0, 1] 1 plain rfl
  have finished : task.finished = true := by
    apply ended
    have visits : (ofDocument plain).visits = Visit.descendants plain.root :=
      plain.visits_eq_descendants
    simp only [fuel, visits]
    decide
  refine ⟨rfl, task, placed, finished, ?_⟩
  rw [whole finished]
  have steps : plain.steps p.extraction = p.extraction.walk none (Visit.descendants plain.root) :=
    congrArg _ plain.visits_eq_descendants
  rw [Pipeline.validate, steps]
  decide

end MarkupLint.Task
