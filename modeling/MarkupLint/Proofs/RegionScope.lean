import MarkupLint.Proofs.Traversal

/-!
What ignore regions suppress, told without a state. A traversal keeps the region that is
open; here the region at a node is read off the comments of all nodes up to it, the last
one with a region marker deciding. Main statement: a document gives exactly the segments
of the nodes that are not suppressed in this sense, in document order.
-/
namespace MarkupLint

namespace Region

/-- What the comments that nodes show do to regions, in order, each with the file of the
node that shows it. -/
def crossings (d : Directives) (infos : List Info) : List (Boundary × String) :=
  infos.flatMap fun info =>
    (comments info).filterMap fun comment =>
      (d.boundary? comment).map fun boundary => (boundary, info.fileId)

/-- Whether a node of a file is suppressed when these nodes, itself the last of them, have
been met: the last crossing is a start, and of the same file. -/
def isSuppressed (d : Directives) (met : List Info) (fileId : String) : Bool :=
  decide ((crossings d met).getLast? = some (.start, fileId))

/-- The region that is open after some crossings. -/
def afterAll (crossed : List (Boundary × String)) : Region :=
  match crossed.getLast? with
  | some (.start, fileId) => some fileId
  | _ => none

theorem crossings_append (d : Directives) (front back : List Info) :
    crossings d (front ++ back) = crossings d front ++ crossings d back :=
  List.flatMap_append

theorem afterAll_concat (crossed : List (Boundary × String)) (info : Info)
    (boundary : Boundary) :
    afterAll (crossed ++ [(boundary, info.fileId)]) = after info boundary := by
  unfold afterAll
  rw [List.getLast?_concat]
  cases boundary <;> rfl

/-- One comment after another: the state holds the region after all crossings so far. -/
theorem foldl_cross_region (d : Directives) (info : Info) (shown : List String)
    (state : State) (crossed : List (Boundary × String))
    (agrees : state.region = afterAll crossed) :
    (shown.foldl (fun state comment => state.cross info (d.boundary? comment)) state).region =
      afterAll (crossed ++ shown.filterMap fun comment =>
        (d.boundary? comment).map fun boundary => (boundary, info.fileId)) := by
  induction shown generalizing state crossed with
  | nil => simpa using agrees
  | cons comment rest ih =>
    rw [List.foldl_cons]
    cases found : d.boundary? comment with
    | none =>
      rw [List.filterMap_cons_none (by simp [found])]
      exact ih state crossed agrees
    | some boundary =>
      have next : (state.cross info (some boundary)).region =
          afterAll (crossed ++ [(boundary, info.fileId)]) :=
        (afterAll_concat crossed info boundary).symm
      rw [ih _ _ next, List.filterMap_cons_some (by simp [found]; rfl), List.append_assoc]
      rfl

/-- The invariant of a traversal: what it keeps is the region after all crossings met. -/
theorem observe_region (d : Directives) (met : List Info) (info : Info) :
    (observe d (afterAll (crossings d met)) info).region =
      afterAll (crossings d (met ++ [info])) := by
  have folded := foldl_cross_region d info (comments info)
    ⟨afterAll (crossings d met), []⟩ (crossings d met) rfl
  rw [crossings_append]
  simpa only [observe, crossings, List.flatMap_cons, List.flatMap_nil, List.append_nil]
    using folded

theorem suppresses_afterAll (d : Directives) (met : List Info) (info : Info) :
    suppresses (afterAll (crossings d met)) info = isSuppressed d met info.fileId := by
  unfold suppresses isSuppressed afterAll
  split
  next fileId last =>
    rw [last]
    by_cases same : fileId = info.fileId <;> simp [same]
  next other =>
    have open? : (crossings d met).getLast? ≠ some (.start, info.fileId) :=
      fun last => other _ last
    simp [open?]

/-- The last crossing of a node decides for all nodes after it, until there is another. -/
theorem getLast?_crossings (d : Directives) (front back : List Info) (node : Info)
    (last : Boundary × String) (own : (crossings d [node]).getLast? = some last) :
    (crossings d (front ++ node :: back)).getLast? = some last ∨
      ∃ later ∈ crossings d back,
        (crossings d (front ++ node :: back)).getLast? = some later := by
  have split : crossings d (front ++ node :: back) =
      crossings d front ++ crossings d [node] ++ crossings d back := by
    rw [← crossings_append, ← crossings_append, List.append_assoc, List.singleton_append]
  rw [split, List.getLast?_append]
  cases after : (crossings d back).getLast? with
  | none =>
    left
    rw [Option.none_or, List.getLast?_append, own, Option.some_or]
  | some later => exact Or.inr ⟨later, List.mem_of_getLast? after, rfl⟩

/-- Starts do not nest: one end makes up for all starts before it. -/
theorem isSuppressed_of_stop (d : Directives) (front back : List Info) (node : Info)
    (fileId ended : String) (own : (crossings d [node]).getLast? = some (.stop, ended))
    (noStart : ∀ crossing ∈ crossings d back, crossing.1 = .stop) :
    isSuppressed d (front ++ node :: back) fileId = false := by
  rw [isSuppressed, decide_eq_false_iff_not]
  rcases getLast?_crossings d front back node _ own with last | ⟨later, member, last⟩
  · simp [last]
  · intro start
    rw [last, Option.some.injEq] at start
    have stop := noStart later member
    simp [start] at stop

/-- A start that no end follows lasts to the end of the document. -/
theorem isSuppressed_of_start (d : Directives) (front back : List Info) (node : Info)
    (fileId : String) (own : (crossings d [node]).getLast? = some (.start, fileId))
    (noEnd : ∀ crossing ∈ crossings d back, crossing = (.start, fileId)) :
    isSuppressed d (front ++ node :: back) fileId = true := by
  rw [isSuppressed, decide_eq_true_eq]
  rcases getLast?_crossings d front back node _ own with last | ⟨later, member, last⟩
  · exact last
  · rw [last, noEnd later member]

end Region

namespace Extraction

/-- A control comment is neither an attribute nor a text run. -/
theorem segment?_eq_none_of_isControl (e : Extraction) (visit : Visit)
    (control : Region.isControl e.directives visit.info = true) : e.segment? visit = none := by
  have kind : visit.info.kind = .comment := by
    simp only [Region.isControl, Bool.and_eq_true, beq_iff_eq] at control
    exact control.1
  simp [segment?, kind]

theorem step_segment (e : Extraction) (met : List Info) (visit : Visit) :
    (e.step (Region.afterAll (Region.crossings e.directives met)) visit).segment =
      if Region.isSuppressed e.directives (met ++ [visit.info]) visit.info.fileId then none
      else e.segment? visit := by
  simp only [step, Region.observe_region, Region.suppresses_afterAll]
  cases control : Region.isControl e.directives visit.info with
  | false => simp
  | true => simp [segment?_eq_none_of_isControl e visit control]

/-- The visits that are not suppressed, each told from the nodes met before and the visits
up to it. -/
def unsuppressed (e : Extraction) (met : List Info) (visits : List Visit) : List Visit :=
  (visits.zipIdx.filter fun (visit, place) =>
    !Region.isSuppressed e.directives (met ++ (visits.take (place + 1)).map Visit.info)
      visit.info.fileId).map Prod.fst

theorem unsuppressed_cons (e : Extraction) (met : List Info) (visit : Visit)
    (rest : List Visit) :
    e.unsuppressed met (visit :: rest) =
      (if Region.isSuppressed e.directives (met ++ [visit.info]) visit.info.fileId then []
        else [visit]) ++ e.unsuppressed (met ++ [visit.info]) rest := by
  have later : ((rest.zipIdx 1).filter fun (later, place) =>
      !Region.isSuppressed e.directives
        (met ++ ((visit :: rest).take (place + 1)).map Visit.info) later.info.fileId).map Prod.fst =
      e.unsuppressed (met ++ [visit.info]) rest := by
    rw [List.zipIdx_succ, List.filter_map, List.map_map, unsuppressed]
    simp [Function.comp_def]
  rw [← later, unsuppressed, List.zipIdx_cons, List.filter_cons]
  cases suppressed : Region.isSuppressed e.directives (met ++ [visit.info]) visit.info.fileId <;>
    simp [suppressed]

/-- The invariant, carried through a whole traversal. -/
theorem walk_segments (e : Extraction) (met : List Info) (visits : List Visit) :
    (e.walk (Region.afterAll (Region.crossings e.directives met)) visits).filterMap (·.segment) =
      (e.unsuppressed met visits).filterMap e.segment? := by
  induction visits generalizing met with
  | nil => rfl
  | cons visit rest ih =>
    have next : (e.step (Region.afterAll (Region.crossings e.directives met)) visit).region =
        Region.afterAll (Region.crossings e.directives (met ++ [visit.info])) :=
      Region.observe_region e.directives met visit.info
    have taken := e.step_segment met visit
    rw [walk, next, unsuppressed_cons, List.filterMap_append, ← ih]
    split at taken
    next suppressed => simp [taken, suppressed]
    next free =>
      rw [List.filterMap_cons, taken, if_neg free]
      cases found : e.segment? visit <;> simp [found]

end Extraction

/-- A document gives the segments of the nodes that are not suppressed, in document order.
One end closes whatever starts came before it, and a start without an end suppresses all
later nodes of its file. -/
theorem Document.segments_eq_unsuppressed (document : Document) (e : Extraction) :
    document.segments e =
        (e.unsuppressed [] (Visit.descendants document.root)).filterMap e.segment? ∧
      (∀ front node back fileId ended,
        (Region.crossings e.directives [node]).getLast? = some (.stop, ended) →
        (∀ crossing ∈ Region.crossings e.directives back, crossing.1 = .stop) →
        Region.isSuppressed e.directives (front ++ node :: back) fileId = false) ∧
      ∀ front node back fileId,
        (Region.crossings e.directives [node]).getLast? = some (.start, fileId) →
        (∀ crossing ∈ Region.crossings e.directives back, crossing = (.start, fileId)) →
        Region.isSuppressed e.directives (front ++ node :: back) fileId = true := by
  refine ⟨?_, ?_, ?_⟩
  · rw [← document.visits_eq_descendants, ← e.walk_segments]
    rfl
  · exact fun front node back fileId ended =>
      Region.isSuppressed_of_stop e.directives front back node fileId ended
  · exact fun front node back fileId =>
      Region.isSuppressed_of_start e.directives front back node fileId

/-- Two starts, one end, and a start that nothing ends. -/
theorem Document.segments_eq_unsuppressed_unmatched_start :
    let start : Info := { kind := .comment, text := "@text-lint ignore start", fileId := "a" }
    let stop : Info := { kind := .comment, text := "@text-lint ignore end", fileId := "a" }
    let run (text : String) : Info := { kind := .textRun, text := text, fileId := "a" }
    let element (text : String) : Node :=
      .mk { kind := .element, fileId := "a" } [.mk (run text) []]
    let document : Document :=
      ⟨"a", .mk { kind := .other, fileId := "a" }
        [.mk start [], element "one", .mk start [], .mk stop [], element "two", .mk start [],
          element "three"]⟩
    document.segments {} = [⟨"two", 1, .textRun⟩] ∧
      Region.isSuppressed {} ([start, run "one", start] ++ stop :: [run "two"]) "a" = false ∧
      Region.isSuppressed {} ([stop, run "two"] ++ start :: [run "three"]) "a" = true := by
  intro start stop run element document
  obtain ⟨given, ended, unended⟩ := document.segments_eq_unsuppressed {}
  refine ⟨?_, ?_, ?_⟩
  · rw [given]
    decide
  · exact ended _ stop [run "two"] "a" "a" (by decide) (by decide)
  · exact unended _ start [run "three"] "a" (by decide) (by decide)

end MarkupLint
