import Mathlib.Data.List.Forall2
import MarkupLint.Markup.Segment
import MarkupLint.Proofs.Utf8
import MarkupLint.Source.Convert

/-!
Stretches of a source. A segment stands at a stretch if its text is what the source holds
there and its line is that of the first byte; a list of segments is laid out between two
places if each stands at a stretch of its own and every stretch comes after those before it.

The slices of a source between two characters stand where they were cut
(`Source.standsAt_slice`), and a run trimmed of its blanks stands where its first character
is (`Source.standsAt_run`). Segments laid out between two places stand at stretches that
come one after another (`Segment.LaidOut.stretches`).
-/
namespace MarkupLint

/-- Bytes of a source from the first on, up to the one where it stops. -/
structure Stretch where
  start : Nat
  stop : Nat
  deriving DecidableEq, Repr

/-- A segment is what the source holds at a stretch, and says on which line that starts. -/
structure Segment.StandsAt (bytes : List UInt8) (segment : Segment) (stretch : Stretch) :
    Prop where
  forward : stretch.start ≤ stretch.stop
  inside : stretch.stop ≤ bytes.length
  text : Utf8.encode segment.text =
    (bytes.drop stretch.start).take (stretch.stop - stretch.start)
  line : segment.line = 1 + ((bytes.take stretch.start).count 10 : Nat)

/-- The number of newlines before a place counts those of the text that ends there. -/
theorem count_newline_take_encode (front rest : String) :
    ((Utf8.encode (front ++ rest)).take front.utf8ByteSize).count 10 =
      front.toList.count '\n' := by
  rw [Utf8.encode_append, ← Utf8.length_encode, List.take_left, Utf8.count_newline_encode]

/-- A part of a text stands after the bytes of what comes before it. -/
theorem Segment.standsAt_of_parts (front middle back : String) (line : Int)
    (origin : SegmentOrigin) (lines : line = 1 + (front.toList.count '\n' : Nat)) :
    Segment.StandsAt (Utf8.encode (front ++ (middle ++ back))) ⟨middle, line, origin⟩
      ⟨front.utf8ByteSize, front.utf8ByteSize + middle.utf8ByteSize⟩ where
  forward := Nat.le_add_right _ _
  inside := by
    simp only [Utf8.length_encode, String.utf8ByteSize_append]
    omega
  text := by
    dsimp only
    rw [Nat.add_sub_cancel_left, Utf8.encode_append, Utf8.encode_append,
      ← Utf8.length_encode front, List.drop_left, ← Utf8.length_encode middle, List.take_left]
  line := by rw [count_newline_take_encode, lines]

namespace Segment

/-- The segments stand between two places, each where the one before it has ended. -/
def LaidOut (bytes : List UInt8) (hi : Nat) : Nat → List Segment → Prop
  | lo, [] => lo ≤ hi
  | lo, segment :: rest =>
      ∃ stretch : Stretch, lo ≤ stretch.start ∧ segment.StandsAt bytes stretch ∧
        LaidOut bytes hi stretch.stop rest

namespace LaidOut

variable {bytes : List UInt8} {lo mid hi : Nat}

theorem one {segment : Segment} {stretch : Stretch} (after : lo ≤ stretch.start)
    (stands : segment.StandsAt bytes stretch) (before : stretch.stop ≤ hi) :
    LaidOut bytes hi lo [segment] :=
  ⟨stretch, after, stands, before⟩

/-- There may be more room before the segments. -/
theorem lower {segments : List Segment} (laid : LaidOut bytes hi mid segments)
    (below : lo ≤ mid) : LaidOut bytes hi lo segments := by
  cases segments with
  | nil => exact Nat.le_trans below laid
  | cons segment rest =>
    obtain ⟨stretch, after, stands, laidRest⟩ := laid
    exact ⟨stretch, Nat.le_trans below after, stands, laidRest⟩

theorem append {front back : List Segment} (laidFront : LaidOut bytes mid lo front)
    (laidBack : LaidOut bytes hi mid back) : LaidOut bytes hi lo (front ++ back) := by
  induction front generalizing lo with
  | nil => exact laidBack.lower laidFront
  | cons segment rest ih =>
    obtain ⟨stretch, after, stands, laidRest⟩ := laidFront
    exact ⟨stretch, after, stands, ih laidRest⟩

/-- There may be more room after the segments. -/
theorem raise {segments : List Segment} (laid : LaidOut bytes mid lo segments)
    (above : mid ≤ hi) : LaidOut bytes hi lo segments := by
  have laidNone : LaidOut bytes hi mid [] := above
  simpa only [List.append_nil] using laid.append laidNone

theorem sublist {kept segments : List Segment} (sub : kept.Sublist segments)
    (laid : LaidOut bytes hi lo segments) : LaidOut bytes hi lo kept := by
  induction sub generalizing lo with
  | slnil => exact laid
  | cons segment _ ih =>
    obtain ⟨stretch, after, stands, laidRest⟩ := laid
    exact (ih laidRest).lower (Nat.le_trans after stands.forward)
  | cons_cons segment _ ih =>
    obtain ⟨stretch, after, stands, laidRest⟩ := laid
    exact ⟨stretch, after, stands, ih laidRest⟩

/-- Segments that are laid out stand at stretches that come one after another. -/
theorem stretches {segments : List Segment} (laid : LaidOut bytes hi lo segments) :
    ∃ stretches : List Stretch,
      List.Forall₂ (Segment.StandsAt bytes) segments stretches ∧
      stretches.Pairwise (fun before after => before.stop ≤ after.start) ∧
      ∀ stretch ∈ stretches, lo ≤ stretch.start := by
  induction segments generalizing lo with
  | nil => exact ⟨[], .nil, .nil, by simp⟩
  | cons segment rest ih =>
    obtain ⟨stretch, after, stands, laidRest⟩ := laid
    obtain ⟨others, matched, ordered, later⟩ := ih laidRest
    refine ⟨stretch :: others, .cons stands matched, .cons later ordered, ?_⟩
    intro other member
    rcases List.mem_cons.mp member with same | member
    · rw [same]
      exact after
    · exact Nat.le_trans after (Nat.le_trans stands.forward (later other member))

end LaidOut

end Segment

/-- A place where a character of a text starts, or its end. -/
def IsBoundary (text : String) (place : Nat) : Prop :=
  (⟨place⟩ : String.Pos.Raw).IsValid text

instance (text : String) (place : Nat) : Decidable (IsBoundary text place) :=
  inferInstanceAs (Decidable (String.Pos.Raw.IsValid _ _))

theorem IsBoundary.parts {text : String} {place : Nat} (boundary : IsBoundary text place) :
    ∃ front back, text = front ++ back ∧ front.utf8ByteSize = place := by
  obtain ⟨front, back, whole, same⟩ := String.Pos.Raw.isValid_iff_exists_append.mp boundary
  exact ⟨front, back, whole, (congrArg String.Pos.Raw.byteIdx same).symm⟩

/-- Two boundaries cut a text in three. -/
theorem IsBoundary.cut {text : String} {start stop : Nat} (first : IsBoundary text start)
    (last : IsBoundary text stop) (forward : start ≤ stop) :
    ∃ front middle back, text = front ++ (middle ++ back) ∧ front.utf8ByteSize = start ∧
      front.utf8ByteSize + middle.utf8ByteSize = stop := by
  obtain ⟨front, rest, startParts, startSize⟩ := first.parts
  obtain ⟨upto, back, stopParts, stopSize⟩ := last.parts
  have same : front.toList ++ rest.toList = upto.toList ++ back.toList := by
    rw [← String.toList_append, ← String.toList_append, ← startParts, stopParts]
  rcases List.append_eq_append_iff.mp same with ⟨gap, longer, after⟩ | ⟨gap, longer, after⟩
  · have uptoParts : upto = front ++ String.ofList gap := by
      rw [← String.toList_inj, String.toList_append, String.toList_ofList, longer]
    refine ⟨front, String.ofList gap, back, ?_, startSize, ?_⟩
    · rw [stopParts, uptoParts, String.append_assoc]
    · rw [← String.utf8ByteSize_append, ← uptoParts, stopSize]
  · -- the places are the same, so nothing lies between them
    have frontParts : front = upto ++ String.ofList gap := by
      rw [← String.toList_inj, String.toList_append, String.toList_ofList, longer]
    have sizes : front.utf8ByteSize = upto.utf8ByteSize + (String.ofList gap).utf8ByteSize := by
      rw [← String.utf8ByteSize_append, ← frontParts]
    refine ⟨front, "", rest, ?_, startSize, ?_⟩
    · rw [startParts, String.empty_append]
    · rw [String.utf8ByteSize_empty]
      omega

/-- A text is what is blank before it, its trimmed part and what is blank after that. -/
theorem Text.exists_trim (text : List Char) :
    ∃ tail, text = text.takeWhile Text.isBlank ++ (Text.trim text ++ tail) := by
  refine ⟨((Text.trimStart text).reverse.takeWhile Text.isBlank).reverse, ?_⟩
  rw [Text.trim, Text.trimEnd, ← List.reverse_append, List.takeWhile_append_dropWhile,
    List.reverse_reverse, Text.trimStart, List.takeWhile_append_dropWhile]

namespace Source

variable (fileId : String) {text : String}

/-- A slice between two characters is the text that lies there. -/
theorem slice_parts (front middle back : String) :
    Source.slice ⟨fileId, Utf8.encode (front ++ (middle ++ back))⟩ front.utf8ByteSize
      (front.utf8ByteSize + middle.utf8ByteSize) = middle := by
  rw [Source.slice, Nat.add_sub_cancel_left, Utf8.encode_append, Utf8.encode_append,
    ← Utf8.length_encode front, List.drop_left, ← Utf8.length_encode middle, List.take_left,
    Utf8.lossy_encode, String.ofList_toList]

theorem standsAt_slice {start stop row : Nat} (first : IsBoundary text start)
    (last : IsBoundary text stop) (forward : start ≤ stop)
    (counted : row = ((Utf8.encode text).take start).count 10) (origin : SegmentOrigin) :
    Segment.StandsAt (Utf8.encode text)
      ⟨Source.slice ⟨fileId, Utf8.encode text⟩ start stop, (row : Int) + 1, origin⟩
      ⟨start, stop⟩ := by
  obtain ⟨front, middle, back, rfl, rfl, rfl⟩ := first.cut last forward
  rw [slice_parts]
  apply Segment.standsAt_of_parts
  rw [counted, count_newline_take_encode, Int.add_comm]

/-- A run stands where its blanks have ended, and its line counts the newlines among
them. -/
theorem standsAt_run {first last : Span} (starts : IsBoundary text first.start)
    (stops : IsBoundary text last.stop) (forward : first.start ≤ last.stop)
    (counted : first.row = ((Utf8.encode text).take first.start).count 10)
    (origin : SegmentOrigin) :
    ∃ stretch : Stretch, first.start ≤ stretch.start ∧ stretch.stop ≤ last.stop ∧
      Segment.StandsAt (Utf8.encode text)
        ⟨Text.trimmed (Source.runInfo ⟨fileId, Utf8.encode text⟩ first last).text,
          (Source.runInfo ⟨fileId, Utf8.encode text⟩ first last).line, origin⟩ stretch := by
  obtain ⟨front, middle, back, rfl, startSize, stopSize⟩ := starts.cut stops forward
  obtain ⟨tail, parts⟩ := Text.exists_trim middle.toList
  generalize blanks : middle.toList.takeWhile Text.isBlank = lead at parts
  have middleParts : middle = String.ofList lead ++ (Text.trimmed middle ++ String.ofList tail) := by
    rw [← String.toList_inj, String.toList_append, String.toList_append, Text.trimmed,
      String.toList_ofList, String.toList_ofList, String.toList_ofList, ← parts]
  have wholeParts : front ++ (middle ++ back) =
      (front ++ String.ofList lead) ++ (Text.trimmed middle ++ (String.ofList tail ++ back)) := by
    conv => lhs; rw [middleParts]
    simp only [String.append_assoc]
  have sizes := congrArg String.utf8ByteSize middleParts
  simp only [String.utf8ByteSize_append] at sizes
  refine ⟨⟨(front ++ String.ofList lead).utf8ByteSize,
    (front ++ String.ofList lead).utf8ByteSize + (Text.trimmed middle).utf8ByteSize⟩, ?_, ?_, ?_⟩
  · simp only [String.utf8ByteSize_append]
    omega
  · simp only [String.utf8ByteSize_append]
    omega
  · simp only [runInfo, ← startSize, ← stopSize, slice_parts, blanks, Span.line]
    rw [wholeParts]
    apply Segment.standsAt_of_parts
    rw [counted, ← startSize, count_newline_take_encode, String.toList_append, List.count_append,
      String.toList_ofList]
    push_cast
    omega

end Source

end MarkupLint
