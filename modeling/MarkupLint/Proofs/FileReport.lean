import MarkupLint.Project.Batch
import MarkupLint.Proofs.SideBySide

/-!
The report on one file by itself. A validation in progress has an end that every step leads to
(`Linter.ending_step`), and unless something goes wrong on the way that end is what the
pipeline makes of the document. Main statement: a file that opens and whose validation meets
no fault is reported with the pipeline's diagnostics, every other file is skipped and its report
holds none.
-/
namespace MarkupLint

theorem Task.fuel_ne_zero (p : Pipeline) {task : Task} (unfinished : task.finished = false) :
    task.fuel p ≠ 0 := by
  simp [fuel, unfinished]

namespace Linter

variable (linter : Linter)

/-! ### The end of a validation -/

/-- Beyond the fuel of a task more attempts change nothing. -/
theorem attempt_eq_of_fuel_le (limit other : Nat) (task : Task)
    (enough : task.fuel linter.pipeline ≤ limit) (alsoEnough : task.fuel linter.pipeline ≤ other) :
    linter.attempt limit task = linter.attempt other task := by
  induction limit generalizing other task with
  | zero =>
    have finished := Task.finished_of_fuel_eq_zero linter.pipeline task (by omega)
    cases other <;> simp [attempt, finished]
  | succ limit ih =>
    cases finished : task.finished with
    | true => cases other <;> simp [attempt, finished]
    | false =>
      have left := Task.fuel_ne_zero linter.pipeline finished
      have less := Task.fuel_step_lt linter.pipeline task left
      obtain ⟨other, rfl⟩ : ∃ fewer, other = fewer + 1 := ⟨other - 1, by omega⟩
      simp only [attempt, finished, Bool.false_eq_true, if_false]
      cases linter.fault? task with
      | some reason => rfl
      | none => exact ih other (task.step linter.pipeline) (by omega) (by omega)

section Ends

variable {linter} {task : Task}

theorem ending_of_finished (finished : task.finished = true) :
    linter.ending task = { task := task } := by
  unfold ending
  cases task.fuel linter.pipeline <;> simp [attempt, finished]

theorem ending_of_fault {reason : String} (unfinished : task.finished = false)
    (wrong : linter.fault? task = some reason) :
    linter.ending task = { task := task, fault := some reason } := by
  have left := Task.fuel_ne_zero linter.pipeline unfinished
  obtain ⟨fuel, more⟩ := Nat.exists_eq_succ_of_ne_zero left
  simp [ending, more, attempt, unfinished, wrong]

/-- A step leads to the same end. -/
theorem ending_step (unfinished : task.finished = false) (right : linter.fault? task = none) :
    linter.ending (task.step linter.pipeline) = linter.ending task := by
  have left := Task.fuel_ne_zero linter.pipeline unfinished
  have less := Task.fuel_step_lt linter.pipeline task left
  obtain ⟨fuel, more⟩ := Nat.exists_eq_succ_of_ne_zero left
  have again : linter.attempt (fuel + 1) task =
      linter.attempt fuel (task.step linter.pipeline) := by
    simp [attempt, unfinished, right]
  rw [ending, ending, more, again]
  exact linter.attempt_eq_of_fuel_le _ _ _ (Nat.le_refl _) (by omega)

end Ends

/-- A validation that nothing goes wrong in finds all that it was ever going to find. -/
theorem progress_ending (task : Task) (settled : Task.Settled task)
    (sound : (linter.ending task).fault = none) :
    (linter.ending task).task.progress = task.outlook linter.pipeline := by
  -- on the fuel that is left; the outlook is what all the steps up to the end have in common
  induction fuel : task.fuel linter.pipeline using Nat.strongRecOn generalizing task with
  | _ fuel ih =>
    cases finished : task.finished with
    | true =>
      rw [ending_of_finished finished]
      exact Task.progress_of_finished linter.pipeline task settled finished
    | false =>
      cases wrong : linter.fault? task with
      | some reason => simp [ending_of_fault finished wrong] at sound
      | none =>
        have left := Task.fuel_ne_zero linter.pipeline finished
        rw [← ending_step finished wrong] at sound ⊢
        rw [← Task.outlook_step linter.pipeline task]
        exact ih _ (fuel ▸ Task.fuel_step_lt linter.pipeline task left) _
          (Task.settled_step linter.pipeline task settled) sound rfl

theorem progress_validate (document : Document) (sound : (linter.validate document).fault = none) :
    (linter.validate document).task.progress = linter.pipeline.validate document := by
  rw [← Task.outlook_ofDocument]
  exact linter.progress_ending (Task.ofDocument document) (Task.settled_ofDocument document) sound

/-! ### Opening a file -/

/-- What comes of opening a file does not depend on the grammars that are loaded already. -/
theorem openFile_value (parser : Parser) (file : SourceFile) :
    (openFile parser file).2.value = (openFile {} file).2.value := by
  unfold openFile
  cases read file.content with
  | error reason => rfl
  | ok text =>
    simp only [Parser.parse]
    generalize Parser.result _ file.content.reading = made
    rcases made with ⟨(_ | _ | _) | document, log⟩ <;> rfl

/-- Only an interruption of the grammar breaks a run off. -/
theorem reading_of_interrupted {file : SourceFile}
    (interrupted : (openFile {} file).2.value = .interrupted) :
    file.content.reading = .interrupt := by
  unfold openFile at interrupted
  cases text : read file.content with
  | error reason => simp [text] at interrupted
  | ok text' =>
    cases reading : file.content.reading with
    | interrupt => rfl
    | tree root => simp [text, reading, Parser.parse, Parser.result] at interrupted
    | syntaxError => simp [text, reading, Parser.parse, Parser.result] at interrupted
    | crash message => simp [text, reading, Parser.parse, Parser.result] at interrupted

/-! ### The report -/

/-- A report is on its file. It holds the diagnostics that the pipeline finds in the file's
document, or the file was skipped and it holds none. -/
theorem report_spec {file : SourceFile} {report : FileReport}
    (reported : linter.report? file = some report) :
    report.path = file.path.text ∧
      (report.skipped = true → report.diagnostics = []) ∧
      (report.skipped = false → ∃ document, (openFile {} file).2.value = .ready document ∧
        report.diagnostics = (linter.pipeline.validate document).diagnostics) := by
  unfold report? at reported
  cases opened : (openFile {} file).2.value with
  | skipped =>
    obtain rfl := Option.some.inj (opened ▸ reported)
    simp
  | interrupted => simp [opened] at reported
  | ready document =>
    rw [opened] at reported
    obtain rfl := Option.some.inj reported
    cases wrong : (linter.validate document).fault with
    | some reason => simp [Ending.report, wrong]
    | none => simp [Ending.report, wrong, linter.progress_validate document wrong]

end Linter

end MarkupLint
