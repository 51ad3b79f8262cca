import MarkupLint.Proofs.Remembered

/-!
Checkers do not get in each other's way. What a segment adds to a validation is told from the
run itself (`Pipeline.shares`), memory and all; it turns out to be what each checker by itself
would add, one checker after another. Since a checker that fails or is late adds nothing, it
may as well have found nothing (`Checker.StandsInFor`).
-/
namespace MarkupLint

namespace Checker

/-- A checker that finds what another one finds, and nothing in the texts on which that one
fails or is late. -/
structure StandsInFor (limit : TimeLimit) (quiet checker : Checker) : Prop where
  name : quiet.name = checker.name
  same : ∀ text found, checker.outcome limit text = .issues found →
    quiet.outcome limit text = .issues found
  silent : ∀ text, (∀ found, checker.outcome limit text ≠ .issues found) → quiet.run text = .ok []

/-- A checker that never fails, and finds what another one finds within a limit. -/
def quieted (limit : TimeLimit) (checker : Checker) : Checker :=
  { checker with run := fun text => .ok (checker.outcome limit text).found }

theorem run_quieted (limit : TimeLimit) (checker : Checker) (text : String) :
    (checker.quieted limit).run text = .ok (checker.outcome limit text).found :=
  rfl

theorem standsInFor_quieted (limit : TimeLimit) (checker : Checker) :
    (checker.quieted limit).StandsInFor limit checker where
  name := rfl
  same text found outcome := by
    have run : (checker.quieted limit).answer text = .issues found := by
      rw [answer, run_quieted, outcome]
      rfl
    cases limit with
    | unlimited => exact run
    | seconds limit =>
      have inTime : ¬ checker.isLate limit text = true := by
        intro late
        simp [Checker.outcome, late] at outcome
      exact (if_neg inTime).trans run
    | unusable problem => simp [Checker.outcome] at outcome
  silent text silent := by
    rw [run_quieted]
    cases outcome : checker.outcome limit text with
    | issues found => exact absurd outcome (silent found)
    | failed failure => rfl
    | timedOut => rfl

/-- However long it takes to find nothing, nothing is found. -/
theorem found_outcome_of_run_eq_nil (checker : Checker) (limit : TimeLimit) {text : String}
    (run : checker.run text = .ok []) : (checker.outcome limit text).found = [] := by
  unfold outcome
  cases limit with
  | unlimited => rw [answer, run]; rfl
  | seconds limit =>
    dsimp only
    split
    · rfl
    · rw [answer, run]; rfl
  | unusable problem => rfl

theorem StandsInFor.found_outcome {limit : TimeLimit} {quiet checker : Checker}
    (standsIn : quiet.StandsInFor limit checker) (text : String) :
    (quiet.outcome limit text).found = (checker.outcome limit text).found := by
  cases outcome : checker.outcome limit text with
  | issues found => rw [standsIn.same text found outcome]
  | failed failure =>
    exact quiet.found_outcome_of_run_eq_nil limit (standsIn.silent text (by simp [outcome]))
  | timedOut =>
    exact quiet.found_outcome_of_run_eq_nil limit (standsIn.silent text (by simp [outcome]))

end Checker

namespace Pipeline

/-- What a checker finds in a segment that is worth checking, as diagnostics. -/
def findings (limit : TimeLimit) (file : String) (segment : Segment) (checker : Checker) :
    List Diagnostic :=
  (checkable? segment).toList.flatMap fun text =>
    (checker.outcome limit text).found.map (diagnostic segment.line checker.name file)

/-- The diagnostics that each segment adds to a validation that has come to a certain point. -/
def Progress.shares (p : Pipeline) (file : String) :
    Progress → List Extraction.Step → List (List Diagnostic)
  | _, [] => []
  | progress, step :: rest =>
      let next := progress.advance p file step
      let later := next.shares p file rest
      if step.segment.isSome then
        next.diagnostics.drop progress.diagnostics.length :: later
      else later

/-- The diagnostics that the segments of a document add to its validation, one after
another. -/
def shares (p : Pipeline) (document : Document) : List (List Diagnostic) :=
  Progress.shares p document.fileId {} (document.steps p.extraction)

/-- The pipeline with one checker alone. -/
def only (p : Pipeline) (checker : Checker) : Pipeline :=
  { p with checkers := [checker] }

/-- The answers to the queries of a segment are the findings of all checkers in turn. -/
theorem flatMap_answers_queries (p : Pipeline) (file : String) (segment : Segment) :
    (p.queries segment).flatMap (answers p file) =
      p.checkers.flatMap (findings p.timeout file segment) := by
  simp only [queries]
  split
  next worth =>
    have text : checkable? segment =
        some (String.ofList (Normalize.normalize segment.text.toList)) := if_pos worth
    have checkers : p.places.map Prod.snd = p.checkers := by
      rw [places, List.map_map]
      exact List.zipIdx_map_fst 0 p.checkers
    rw [List.flatMap_map, ← checkers, List.flatMap_map]
    simp only [findings, text, Option.toList_some, List.flatMap_singleton]
    rfl
  next idle =>
    have noText : checkable? segment = none := if_neg idle
    simp [findings, noText]

/-- In a run that remembers, a segment adds the findings of all checkers in turn. -/
theorem Progress.Keeps.shares {p : Pipeline} {file : String} {met : List Query}
    {progress : Progress} (keeps : Keeps p file met progress) (steps : List Extraction.Step) :
    progress.shares p file steps =
      (steps.filterMap (·.segment)).map fun segment =>
        p.checkers.flatMap (findings p.timeout file segment) := by
  induction steps generalizing met progress with
  | nil => rfl
  | cons step rest ih =>
    have next := keeps.foldl_advance [step]
    rw [Progress.shares]
    cases found : step.segment with
    | none =>
      simp only [found, List.filterMap_cons, List.filterMap_nil, List.flatMap_nil, List.append_nil,
        List.foldl_cons, List.foldl_nil] at next
      simpa [found] using ih next
    | some segment =>
      -- the memory may answer for a checker, but what it tells is what the checker would find
      simp only [found, List.filterMap_cons, List.filterMap_nil, List.flatMap_cons,
        List.flatMap_nil, List.append_nil, List.foldl_cons, List.foldl_nil] at next
      have added : (progress.advance p file step).diagnostics =
          progress.diagnostics ++ p.checkers.flatMap (findings p.timeout file segment) := by
        rw [next.diagnostics, keeps.diagnostics, List.flatMap_append, flatMap_answers_queries]
      rw [ih next, added, List.drop_left]
      simp [found]

theorem shares_eq (p : Pipeline) (document : Document) :
    p.shares document = (document.segments p.extraction).map fun segment =>
      p.checkers.flatMap (findings p.timeout document.fileId segment) :=
  (Progress.Keeps.start p document.fileId).shares (document.steps p.extraction)

/-- A validation is made of the shares of its segments. -/
theorem diagnostics_validate (p : Pipeline) (document : Document) :
    (p.validate document).diagnostics = (p.shares document).flatten := by
  rw [(keeps_validate p document).diagnostics, List.flatMap_assoc, shares_eq, List.flatMap_def]
  simp only [flatMap_answers_queries]

/-- A checker may be exchanged for one that finds the same under the same name. -/
theorem flatMap_findings_set (limit : TimeLimit) (file : String) (segment : Segment)
    {checkers : List Checker} {place : Nat} {checker quiet : Checker}
    (placed : checkers[place]? = some checker)
    (same : findings limit file segment quiet = findings limit file segment checker) :
    (checkers.set place quiet).flatMap (findings limit file segment) =
      checkers.flatMap (findings limit file segment) := by
  obtain ⟨inside, rfl⟩ := List.getElem?_eq_some_iff.mp placed
  have unchanged : (checkers.map (findings limit file segment)).set place
      (findings limit file segment checkers[place]) =
        checkers.map (findings limit file segment) := by
    rw [← List.map_set, List.set_getElem_self]
  rw [List.flatMap_def, List.flatMap_def, List.map_set, same, unchanged]

/-- Checkers are independent: each segment gets the diagnostics that the checkers give it when
each is the only one, one checker after another. A checker's failures and delays cost nothing
but its own diagnostics: one that finds nothing instead gives the same result. -/
theorem validate_eq_singles (p : Pipeline) (document : Document) :
    (p.validate document).diagnostics = (p.shares document).flatten ∧
      (p.shares document = (List.range (document.segments p.extraction).length).map fun place =>
        p.checkers.flatMap fun checker => ((p.only checker).shares document).getD place []) ∧
      ∀ (place : Nat) (checker quiet : Checker), p.checkers[place]? = some checker →
        quiet.StandsInFor p.timeout checker →
        (Pipeline.validate { p with checkers := p.checkers.set place quiet } document).diagnostics =
          (p.validate document).diagnostics := by
  refine ⟨p.diagnostics_validate document, ?_, ?_⟩
  · rw [shares_eq]
    apply List.ext_getElem
    · simp
    · intro place inside _
      rw [List.length_map] at inside
      rw [List.getElem_map, List.getElem_map, List.getElem_range]
      apply congrArg (p.checkers.flatMap ·)
      funext checker
      rw [shares_eq]
      simp [only, inside]
  · intro place checker quiet placed standsIn
    rw [diagnostics_validate, diagnostics_validate, shares_eq, shares_eq]
    apply congrArg List.flatten
    apply List.map_congr_left
    intro segment _
    apply flatMap_findings_set _ _ _ placed
    simp only [findings, standsIn.name, standsIn.found_outcome]

/-- A checker that fails on every text, beside one that finds fault with every text. -/
theorem validate_eq_singles_failing :
    let run (line : Int) : Node :=
      .mk { kind := .element } [.mk { kind := .textRun, text := "teh", line := line } []]
    let document : Document := ⟨"a", .mk { kind := .other } [run 1, run 5]⟩
    let failing : Checker := { name := "f", run := fun _ => .error (.crash "no dictionary") }
    let p : Pipeline :=
      { checkers := [failing, { name := "c", run := fun _ => .ok [⟨"m", "r"⟩] }]
        timeout := .unlimited }
    let quiet := failing.quieted p.timeout
    p.checkers[0]? = some failing ∧ quiet.StandsInFor p.timeout failing ∧
      p.shares document = [[⟨1, "m", "r", "c", "a"⟩], [⟨5, "m", "r", "c", "a"⟩]] ∧
      (Pipeline.validate { p with checkers := p.checkers.set 0 quiet } document).diagnostics =
        [⟨1, "m", "r", "c", "a"⟩, ⟨5, "m", "r", "c", "a"⟩] := by
  intro run document failing p quiet
  obtain ⟨told, -, exchanged⟩ := p.validate_eq_singles document
  have standsIn : quiet.StandsInFor p.timeout failing := failing.standsInFor_quieted p.timeout
  have shares : p.shares document = [[⟨1, "m", "r", "c", "a"⟩], [⟨5, "m", "r", "c", "a"⟩]] := by
    rw [Pipeline.shares, Document.steps, document.visits_eq_descendants]
    decide +kernel
  refine ⟨rfl, standsIn, shares, ?_⟩
  rw [exchanged 0 failing quiet rfl standsIn, told, shares]
  rfl

end Pipeline

end MarkupLint
