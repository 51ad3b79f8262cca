import MarkupLint.Check.Validate
import MarkupLint.Proofs.Traversal

/-!
Answers that a validation remembers. The invariant relates the memory, the questions put so
far and the diagnostics to the queries met so far: what is remembered is what the checker
would say, exactly the questions put are remembered, and every query has had its answer.
Main statement: remembering changes no diagnostic, and each checker is asked once about
each text worth checking.
-/
namespace MarkupLint.Pipeline

/-- What the checker of a query finds, as diagnostics. -/
def answers (p : Pipeline) (file : String) (query : Query) : List Diagnostic :=
  (query.checker.outcome p.timeout query.text).found.map
    (diagnostic query.line query.checker.name file)

/-- The texts that the checker at a place is asked about, in order. -/
def asks (index : Nat) (trace : List Event) : List String :=
  trace.filterMap fun
    | .asked place text => if place = index then some text else none
    | .log _ => none

/-- The texts of the queries for the checker at a place. -/
def textsFor (index : Nat) (queries : List Query) : List String :=
  queries.filterMap fun query => if query.index = index then some query.text else none

/-- The text of a segment as checkers see it, if it is worth checking. -/
def checkable? (segment : Segment) : Option String :=
  let text := Normalize.normalize segment.text.toList
  if Normalize.isCheckable text then some (String.ofList text) else none

/-- A query puts its question to the checker that stands at its place. -/
def Query.IsFor (p : Pipeline) (query : Query) : Prop :=
  p.checkers[query.index]? = some query.checker

theorem asks_append (index : Nat) (front back : List Event) :
    asks index (front ++ back) = asks index front ++ asks index back :=
  List.filterMap_append

theorem asks_log (index : Nat) (records : List LogRecord) :
    asks index (records.map Event.log) = [] := by
  simp [asks]

theorem textsFor_append (index : Nat) (front back : List Query) :
    textsFor index (front ++ back) = textsFor index front ++ textsFor index back :=
  List.filterMap_append

theorem textsFor_singleton (index : Nat) (query : Query) :
    textsFor index [query] = if query.index = index then [query.text] else [] := by
  rw [textsFor, List.filterMap_cons]
  by_cases here : query.index = index
  · rw [if_pos here, if_pos here]
    rfl
  · rw [if_neg here, if_neg here]
    rfl

theorem isFor_of_mem_queries (p : Pipeline) (segment : Segment) (query : Query)
    (member : query ∈ p.queries segment) : query.IsFor p := by
  simp only [queries] at member
  split at member
  · simp only [places, List.map_map, List.mem_map, Prod.exists] at member
    obtain ⟨checker, index, place, rfl⟩ := member
    exact List.mk_mem_zipIdx_iff_getElem?.mp place
  · cases member

theorem filterMap_zipIdx_place (checkers : List Checker) (start index : Nat) (text : String) :
    ((checkers.zipIdx start).filterMap fun (_, place) =>
        if place = index then some text else none) =
      if start ≤ index ∧ index < start + checkers.length then [text] else [] := by
  induction checkers generalizing start with
  | nil =>
    have outside : ¬ (start ≤ index ∧ index < start + ([] : List Checker).length) := by
      simp only [List.length_nil]
      omega
    rw [if_neg outside]
    rfl
  | cons checker rest ih =>
    rw [List.zipIdx_cons, List.filterMap_cons, ih, List.length_cons]
    dsimp only
    by_cases here : start = index
    · have passed : ¬ (start + 1 ≤ index ∧ index < start + 1 + rest.length) := by omega
      have inside : start ≤ index ∧ index < start + (rest.length + 1) := by omega
      rw [if_pos here, if_neg passed, if_pos inside]
    · have same : (start + 1 ≤ index ∧ index < start + 1 + rest.length) ↔
          (start ≤ index ∧ index < start + (rest.length + 1)) := by omega
      rw [if_neg here]
      simp only [same]

/-- The queries of a segment hold its text once for every checker. -/
theorem textsFor_queries (p : Pipeline) (index : Nat) (segment : Segment) :
    textsFor index (p.queries segment) =
      if index < p.checkers.length then (checkable? segment).toList else [] := by
  simp only [queries, checkable?]
  split
  next worth =>
    have placed := filterMap_zipIdx_place p.checkers 0 index
      (String.ofList (Normalize.normalize segment.text.toList))
    simp only [Nat.zero_le, true_and, Nat.zero_add] at placed
    simp only [textsFor, places, List.map_map, List.filterMap_map]
    exact placed
  next => simp [textsFor]

/-- What holds of a validation that has met these queries. -/
structure Progress.Keeps (p : Pipeline) (file : String) (met : List Query)
    (progress : Progress) : Prop where
  sound : ∀ index text found, progress.memo.lookup (index, text) = some found →
    ∃ checker, p.checkers[index]? = some checker ∧
      found = (checker.outcome p.timeout text).found
  remembered : ∀ index text, (progress.memo.lookup (index, text)).isSome = true ↔
    text ∈ asks index progress.trace
  asked : ∀ index, asks index progress.trace = (textsFor index met).eraseDups
  diagnostics : progress.diagnostics = met.flatMap (answers p file)

namespace Progress

theorem Keeps.start (p : Pipeline) (file : String) : Keeps p file [] {} where
  sound index text found known := by simp at known
  remembered index text := by simp [asks]
  asked index := rfl
  diagnostics := rfl

/-- Records of region changes leave everything that is kept alone. -/
theorem Keeps.note {p : Pipeline} {file : String} {met : List Query} {progress : Progress}
    (keeps : Keeps p file met progress) (records : List LogRecord) :
    Keeps p file met (progress.note records) := by
  have same : ∀ index, asks index (progress.note records).trace = asks index progress.trace := by
    intro index
    rw [Progress.note, asks_append, asks_log, List.append_nil]
  exact ⟨keeps.sound, fun index text => (keeps.remembered index text).trans (by rw [same index]),
    fun index => (same index).trans (keeps.asked index), keeps.diagnostics⟩

/-- A question adds its text to those the checker was asked, and to no other's. -/
theorem asks_ask (p : Pipeline) (file : String) (progress : Progress) (query : Query)
    (index : Nat) :
    asks index (progress.ask p file query).trace =
      asks index progress.trace ++ if query.index = index then [query.text] else [] := by
  have complaints := asks_log index
    (p.complaint? query.checker.name query.line (query.checker.outcome p.timeout query.text)).toList
  simp only [ask, report, asks_append]
  rw [asks, asks, List.filterMap_cons]
  rw [asks] at complaints
  by_cases here : query.index = index <;> simp [here, complaints]

theorem diagnostics_ask (p : Pipeline) (file : String) (progress : Progress) (query : Query) :
    (progress.ask p file query).diagnostics = progress.diagnostics ++ answers p file query :=
  rfl

/-- A text that was met before adds nothing to the distinct ones. -/
theorem eraseDups_concat (texts : List String) (text : String) :
    (texts ++ [text]).eraseDups =
      texts.eraseDups ++ if text ∈ texts then [] else [text] := by
  rw [List.eraseDups_append]
  by_cases known : text ∈ texts <;> simp [List.removeAll, known, List.eraseDups_cons]

/-- A query whose answer is remembered: only its diagnostics are new. -/
theorem Keeps.recall {p : Pipeline} {file : String} {met : List Query} {progress : Progress}
    (keeps : Keeps p file met progress) (query : Query) (isFor : query.IsFor p)
    (found : List Issue) (known : progress.memo.lookup (query.index, query.text) = some found) :
    Keeps p file (met ++ [query]) (progress.report file query found) := by
  refine ⟨keeps.sound, keeps.remembered, ?_, ?_⟩
  · intro index
    have before : asks index progress.trace = (textsFor index met).eraseDups := keeps.asked index
    rw [report, before, textsFor_append, textsFor_singleton]
    by_cases here : query.index = index
    · have met? : query.text ∈ textsFor index met := by
        have asked := (keeps.remembered query.index query.text).mp (by simp [known])
        rw [here, before] at asked
        exact List.mem_eraseDups.mp asked
      rw [if_pos here, eraseDups_concat, if_pos met?, List.append_nil]
    · rw [if_neg here, List.append_nil]
  · obtain ⟨checker, place, same⟩ := keeps.sound query.index query.text found known
    have checkerEq : checker = query.checker := Option.some.inj (place.symm.trans isFor)
    rw [report, keeps.diagnostics, List.flatMap_append, List.flatMap_singleton, same, checkerEq]
    rfl

/-- A query that is new: the checker is asked, and its answer remembered. -/
theorem Keeps.learn {p : Pipeline} {file : String} {met : List Query} {progress : Progress}
    (keeps : Keeps p file met progress) (query : Query) (isFor : query.IsFor p)
    (unknown : progress.memo.lookup (query.index, query.text) = none) :
    Keeps p file (met ++ [query])
      { progress.ask p file query with
        memo := ((query.index, query.text), (query.checker.outcome p.timeout query.text).found) ::
          progress.memo } := by
  refine ⟨?_, ?_, ?_, ?_⟩
  · intro index text found lookup
    rw [List.lookup_cons] at lookup
    split at lookup
    next same =>
      have key := beq_iff_eq.mp same
      simp only [Prod.mk.injEq] at key
      refine ⟨query.checker, key.1 ▸ isFor, ?_⟩
      rw [key.2]
      exact (Option.some.inj lookup).symm
    next => exact keeps.sound index text found lookup
  · intro index text
    rw [asks_ask, List.mem_append, ← keeps.remembered index text]
    by_cases same : (index, text) = (query.index, query.text)
    · obtain ⟨rfl, rfl⟩ := Prod.mk.inj same
      simp
    · have other : text ∉ if query.index = index then [query.text] else [] := by
        intro member
        split at member
        next here => exact same (by rw [List.mem_singleton.mp member, here])
        next => cases member
      rw [List.lookup_cons, beq_eq_false_iff_ne.mpr same]
      exact (or_iff_left other).symm
  · intro index
    rw [asks_ask, keeps.asked index, textsFor_append, textsFor_singleton]
    by_cases here : query.index = index
    · have fresh : query.text ∉ textsFor index met := by
        intro member
        have asked : query.text ∈ asks query.index progress.trace := by
          rw [here, keeps.asked index]
          exact List.mem_eraseDups.mpr member
        have lookup := (keeps.remembered query.index query.text).mpr asked
        simp [unknown] at lookup
      rw [if_pos here, eraseDups_concat, if_neg fresh]
    · rw [if_neg here, List.append_nil, List.append_nil]
  · have told := diagnostics_ask p file progress query
    rw [List.flatMap_append, List.flatMap_singleton, ← keeps.diagnostics]
    exact told

/-- What one query preserves. -/
theorem Keeps.consult {p : Pipeline} {file : String} {met : List Query} {progress : Progress}
    (keeps : Keeps p file met progress) (query : Query) (isFor : query.IsFor p) :
    Keeps p file (met ++ [query]) (progress.consult p file query) := by
  unfold Progress.consult
  cases lookup : progress.memo.lookup (query.index, query.text) with
  | none =>
    simp only [lookup]
    exact keeps.learn query isFor lookup
  | some found =>
    simp only [lookup]
    exact keeps.recall query isFor found lookup

/-- What all queries of a segment preserve. -/
theorem Keeps.foldl_consult {p : Pipeline} {file : String} {met : List Query}
    {progress : Progress} (keeps : Keeps p file met progress) (queries : List Query)
    (areFor : ∀ query ∈ queries, query.IsFor p) :
    Keeps p file (met ++ queries) (queries.foldl (Progress.consult p file) progress) := by
  induction queries generalizing met progress with
  | nil => simpa using keeps
  | cons query rest ih =>
    have next := keeps.consult query (areFor query (by simp))
    have ended := ih next (fun later member => areFor later (by simp [member]))
    simpa using ended

/-- What a whole traversal preserves. -/
theorem Keeps.foldl_advance {p : Pipeline} {file : String} {met : List Query}
    {progress : Progress} (keeps : Keeps p file met progress) (steps : List Extraction.Step) :
    Keeps p file (met ++ (steps.filterMap (·.segment)).flatMap p.queries)
      (steps.foldl (Progress.advance p file) progress) := by
  induction steps generalizing met progress with
  | nil => simpa using keeps
  | cons step rest ih =>
    have noted := keeps.note step.log
    have areFor : ∀ query ∈ step.segment.elim [] p.queries, query.IsFor p := by
      intro query member
      cases found : step.segment with
      | none => simp [found] at member
      | some segment =>
        rw [found, Option.elim_some] at member
        exact isFor_of_mem_queries p segment query member
    have ended := ih (noted.foldl_consult (step.segment.elim [] p.queries) areFor)
    rw [List.foldl_cons]
    cases found : step.segment with
    | none => simpa [Progress.advance, found] using ended
    | some segment => simpa [Progress.advance, found] using ended

end Progress

theorem diagnostics_foldl_ask (p : Pipeline) (file : String) (queries : List Query)
    (progress : Progress) :
    (queries.foldl (Progress.ask p file) progress).diagnostics =
      progress.diagnostics ++ queries.flatMap (answers p file) := by
  induction queries generalizing progress with
  | nil => simp
  | cons query rest ih =>
    rw [List.foldl_cons, ih, Progress.diagnostics_ask, List.append_assoc, List.flatMap_cons]

/-- Checked alone, a segment has the answers of all checkers in turn. -/
theorem diagnostics_checkAlone (p : Pipeline) (file : String) (segment : Segment) :
    (p.checkAlone file segment).diagnostics = (p.queries segment).flatMap (answers p file) := by
  rw [checkAlone, diagnostics_foldl_ask]
  rfl

/-- What is kept at the end of a validation, for all queries of the document. -/
theorem keeps_validate (p : Pipeline) (document : Document) :
    Progress.Keeps p document.fileId ((document.segments p.extraction).flatMap p.queries)
      (p.validate document) := by
  have walked := (Progress.Keeps.start p document.fileId).foldl_advance
    (document.steps p.extraction)
  exact walked.note _

theorem textsFor_flatMap_queries (p : Pipeline) (index : Nat) (segments : List Segment) :
    textsFor index (segments.flatMap p.queries) =
      if index < p.checkers.length then segments.filterMap checkable? else [] := by
  induction segments with
  | nil => simp [textsFor]
  | cons segment rest ih =>
    rw [List.flatMap_cons, textsFor_append, textsFor_queries, ih, List.filterMap_cons]
    split
    · cases checkable? segment <;> rfl
    · rfl

/-- Remembering answers changes no diagnostic: a validation gives those of its segments
checked alone, one segment after another. Each checker is asked about every text worth
checking, once, in the order of first appearance, and about nothing else. -/
theorem validate_eq_checkAlone (p : Pipeline) (document : Document) :
    (p.validate document).diagnostics =
        (document.segments p.extraction).flatMap (fun segment =>
          (p.checkAlone document.fileId segment).diagnostics) ∧
      ∀ index, asks index (p.validate document).trace =
        if index < p.checkers.length then
          ((document.segments p.extraction).filterMap checkable?).eraseDups
        else [] := by
  have keeps := keeps_validate p document
  constructor
  · rw [keeps.diagnostics, List.flatMap_assoc]
    simp only [diagnostics_checkAlone]
  · intro index
    rw [keeps.asked index, textsFor_flatMap_queries]
    split <;> rfl

/-- A text that comes twice is told about twice and asked about once. -/
theorem validate_eq_checkAlone_repeated :
    let run (line : Int) : Node :=
      .mk { kind := .element } [.mk { kind := .textRun, text := "teh", line := line } []]
    let document : Document := ⟨"a", .mk { kind := .other } [run 1, run 5]⟩
    let p : Pipeline :=
      { checkers := [{ name := "c", run := fun _ => .ok [⟨"m", "r"⟩] }], timeout := .unlimited }
    (p.validate document).diagnostics = [⟨1, "m", "r", "c", "a"⟩, ⟨5, "m", "r", "c", "a"⟩] ∧
      asks 0 (p.validate document).trace = ["teh"] := by
  intro run document p
  obtain ⟨told, asked⟩ := p.validate_eq_checkAlone document
  rw [told, asked 0, Document.segments, Document.steps, document.visits_eq_descendants]
  decide

end MarkupLint.Pipeline
