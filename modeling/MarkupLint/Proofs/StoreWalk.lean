import Mathlib.Logic.Function.Basic
import MarkupLint.Proofs.Shown

/-!
Settings as changes of a store. A root is one object, and so is each container in it that has a
label; a setting goes from one of these mappings into others (`Override.Spot`) and sets a key in
the last one (`Override.slot?`). Main statements: a path that is cut short leads to the same place
(`Override.slot?_direct`), and a setting that neither comes past a place nor sets it goes the same
way after another one has been made there (`Override.slot?_update`).
-/
namespace MarkupLint

namespace Override

open MarkupLint.Text MarkupLint.Value

/-- The contents of each container with a label, and under none those of the root. -/
abbrev Store := Option Label → Value

/-- The entries of a mapping in a store. -/
def contents (store : Store) (owner : Option Label) : Entries :=
  (store owner).entries?.getD []

/-- What a store holds under the label of a container. -/
def Holding (store : Store) (label : Label) (held : Value) : Prop :=
  store (some label) = held

/-- A root with its containers, as the store has them. -/
structure ShowsRoot (store : Store) (root : Entries) : Prop where
  whole : store none = .ofEntries (outlineEntries root)
  parts : ShowsEntries (Holding store) [] root

/-- A place in a store: a mapping, and the parts of the path from there on. -/
abbrev Place := Option Label × List String

/-- How far a walk has come: it is in a mapping of the store, or in one without a label that
belongs to it and to which these parts lead. -/
structure Spot where
  owner : Option Label
  passed : List String
  entries : Entries

namespace Spot

def place (spot : Spot) (part : String) : Place :=
  (spot.owner, spot.passed ++ [part])

/-- What the mapping holds under the spelling that is meant. -/
def held? (spot : Spot) (part : String) : Option Value :=
  spot.entries.field? (resolveKey spot.entries part)

end Spot

def atRoot (store : Store) : Spot :=
  ⟨none, [], contents store none⟩

/-- On into what is held at a place: into a mapping there, or a new one, or one of the store. -/
def onward? (store : Store) (place : Place) : Option Value → Option Spot
  | none | some .null => some ⟨place.1, place.2, []⟩
  | some (.map _ child) => some ⟨place.1, place.2, child⟩
  | some (.again label true) => some ⟨some label, [], contents store (some label)⟩
  | some _ => none

def step? (store : Store) (spot : Spot) (part : String) : Option Spot :=
  onward? store (spot.place part) (spot.held? part)

/-- Where a path leads, unless a value stops the walk. -/
def goes? (store : Store) (spot : Spot) (path : List String) : Option Spot :=
  path.foldlM (step? store) spot

/-- The place that a path sets. -/
def slot? (store : Store) : Spot → List String → Option Place
  | _, [] => none
  | spot, [part] => some (spot.place part)
  | spot, part :: next :: rest => (step? store spot part).bind (slot? store · (next :: rest))

/-- The places that a path comes past, with the one that it sets. -/
def trail (store : Store) : Spot → List String → List Place
  | _, [] => []
  | spot, part :: rest =>
      spot.place part ::
        match step? store spot part with
        | none => []
        | some inside => trail store inside rest

/-! ### Shortcuts -/

variable {store : Store} {spot start : Spot}

theorem slot?_cons {part : String} {rest : List String} (more : rest ≠ []) :
    slot? store spot (part :: rest) = (step? store spot part).bind (slot? store · rest) := by
  cases rest with
  | nil => exact absurd rfl more
  | cons next rest => rfl

theorem slot?_append (spot : Spot) (front : List String) {rest : List String} (more : rest ≠ []) :
    slot? store spot (front ++ rest) = (goes? store spot front).bind (slot? store · rest) := by
  induction front generalizing spot with
  | nil => rfl
  | cons part front ih =>
    have longer : front ++ rest ≠ [] := fun none => more (List.append_eq_nil_iff.mp none).2
    rw [List.cons_append, slot?_cons longer, goes?, List.foldlM_cons]
    cases step? store spot part with
    | none => rfl
    | some inside => exact ih inside

theorem goes?_append (spot : Spot) (front back : List String) :
    goes? store spot (front ++ back) = (goes? store spot front).bind (goes? store · back) :=
  List.foldlM_append

theorem goes?_singleton (spot : Spot) (part : String) :
    goes? store spot [part] = step? store spot part :=
  List.foldlM_cons.trans (Option.bind_fun_some _)

theorem resolveKey_outlineEntries (entries : Entries) (part : String) :
    resolveKey (outlineEntries entries) part = resolveKey entries part :=
  resolveKey_of_keys_eq (outlineEntries_keys entries) part

theorem contents_of_holding {label : Label} {entries : Entries}
    (own : Holding store label (.ofEntries entries)) : contents store (some label) = entries := by
  rw [contents, own]
  rfl

/-- Where a walk has come to a value of the root: the store has it at some place, and the known
paths lead to the mappings around it. -/
structure Traced (store : Store) (start : Spot) (known : List (Label × List String))
    (passed : List String) (value : Value) : Prop where
  back : ∀ label path, known.lookup label = some path →
    goes? store start path = some ⟨some label, [], contents store (some label)⟩
  here : ∃ place, goes? store start passed = onward? store place (some (outline value))

namespace Traced

variable {known : List (Label × List String)} {passed : List String} {label : Option Label}
  {entries : Entries} {part : String} {child value : Value}

/-- In a mapping, with a label or without, the walk is at what the mapping holds. -/
theorem exists_spot (traced : Traced store start known passed (.map label entries))
    (own : ∀ l ∈ label, Holding store l (.ofEntries (outlineEntries entries))) :
    ∃ spot, goes? store start passed = some spot ∧ spot.entries = outlineEntries entries := by
  obtain ⟨place, here⟩ := traced.here
  cases label with
  | none => exact ⟨_, here, rfl⟩
  | some l => exact ⟨_, here, contents_of_holding (own l rfl)⟩

/-- One key further in. -/
theorem next (traced : Traced store start known passed (.map label entries))
    (own : ∀ l ∈ label, Holding store l (.ofEntries (outlineEntries entries)))
    (found : entries.field? (resolveKey entries part) = some child) :
    Traced store start (label.toList.map (·, passed) ++ known) (passed ++ [part]) child := by
  constructor
  · intro other path listed
    cases label with
    | none => exact traced.back other path listed
    | some l =>
      rw [Option.toList_some, List.map_singleton, List.singleton_append, List.lookup_cons] at listed
      cases same : other == l with
      | true =>
        rw [same] at listed
        cases listed
        obtain rfl := eq_of_beq same
        obtain ⟨place, here⟩ := traced.here
        exact here
      | false =>
        rw [same] at listed
        exact traced.back other path listed
  · obtain ⟨spot, here, isOutline⟩ := traced.exists_spot own
    refine ⟨spot.place part, ?_⟩
    rw [goes?_append, here, Option.bind_some, goes?_singleton, step?, Spot.held?, isOutline,
      resolveKey_outlineEntries, Entries.field?, get?_outlineEntries, ← Entries.field?, found]
    rfl

/-- A shorter path leads to the same place. -/
theorem slot?_shortcut? {around : List Label} {path shorter : List String}
    (traced : Traced store start known passed value)
    (shown : Shows (Holding store) around value)
    (found : shortcut? known passed value path = some shorter) :
    slot? store start shorter = slot? store start (passed ++ path) := by
  fun_induction shortcut? known passed value path generalizing around with
  | case1 known passed label part rest =>
    obtain ⟨before, listed, rfl⟩ := Option.map_eq_some_iff.mp found
    obtain ⟨place, here⟩ := traced.here
    have back := traced.back label before listed
    rw [slot?_append _ _ (List.cons_ne_nil _ _), slot?_append _ _ (List.cons_ne_nil _ _), back,
      here]
    rfl
  | case2 known passed label entries part rest ih =>
    obtain ⟨child, there, found⟩ := Option.bind_eq_some_iff.mp found
    rw [ih child (traced.next shown.1 there) (shown.2.get? there) found, List.append_assoc]
    rfl
  | case3 => cases found

end Traced

variable {root : Entries}

theorem ShowsRoot.contents (shown : ShowsRoot store root) :
    contents store none = outlineEntries root := by
  rw [Override.contents, shown.whole]
  rfl

theorem ShowsRoot.traced (shown : ShowsRoot store root) :
    Traced store (atRoot store) [] [] (.ofEntries root) where
  back := nofun
  here := by
    refine ⟨(none, []), ?_⟩
    rw [atRoot, shown.contents]
    rfl

theorem slot?_direct (shown : ShowsRoot store root) (fuel : Nat) (path : List String) :
    slot? store (atRoot store) (direct root fuel path) = slot? store (atRoot store) path := by
  induction fuel generalizing path with
  | zero => rfl
  | succ fuel ih =>
    rw [direct]
    split
    next shorter found =>
      rw [ih]
      exact shown.traced.slot?_shortcut? shown.parts.ofEntries found
    next => rfl

/-! ### After another setting -/

theorem onward?_of_entered? {entries : Entries} {key : String}
    {entered : Option Label × Entries} (found : entered? entries key = some entered)
    (place : Place) :
    onward? store place (entries.field? key) = some ⟨place.1, place.2, entered.2⟩ := by
  unfold entered? at found
  split at found <;> cases found <;> simp [onward?, *]

/-- The same spot before and after a setting has been made at a place: there is the same, or the
setting goes on below. -/
structure Kept (place : Place) (value : Value) (spot after : Spot) : Prop where
  owner : after.owner = spot.owner
  passed : after.passed = spot.passed
  entries : after.entries = spot.entries ∨ ∃ tail, spot.owner = place.1 ∧
    place.2 = spot.passed ++ tail ∧ write spot.entries tail value = some after.entries

section Update

variable {place : Place} {value : Value} {written : Entries}

theorem kept_contents (done : write (contents store place.1) place.2 value = some written)
    (owner : Option Label) :
    Kept place value ⟨owner, [], contents store owner⟩
      ⟨owner, [], contents (Function.update store place.1 (.ofEntries written)) owner⟩ := by
  refine ⟨rfl, rfl, ?_⟩
  by_cases same : owner = place.1
  · refine .inr ⟨place.2, same, rfl, ?_⟩
    subst same
    rw [done, contents, Function.update_self]
    rfl
  · rw [contents, Function.update_of_ne same]
    exact .inl rfl

/-- Two walks that go on with the same value. -/
theorem onward?_kept (done : write (contents store place.1) place.2 value = some written)
    (here : Place) (held : Option Value) :
    Option.Rel (Kept place value) (onward? store here held)
      (onward? (Function.update store place.1 (.ofEntries written)) here held) := by
  have same (child : Entries) : Kept place value ⟨here.1, here.2, child⟩ ⟨here.1, here.2, child⟩ :=
    ⟨rfl, rfl, .inl rfl⟩
  unfold onward?
  split
  next => exact .some (same [])
  next => exact .some (same [])
  next => exact .some (same _)
  next l => exact .some (kept_contents done (some l))
  next => exact .none

/-- One part further, unless that is the one that has been set. -/
theorem Kept.step? {after : Spot} (kept : Kept place value spot after)
    (done : write (contents store place.1) place.2 value = some written)
    (lower : ∀ part ∈ place.2, lowered part = part) {part : String} (final : lowered part = part)
    (distinct : place ≠ spot.place part) :
    Option.Rel (Kept place value) (step? store spot part)
      (step? (Function.update store place.1 (.ofEntries written)) after part) := by
  obtain ⟨owner, gone, entries⟩ := spot
  obtain ⟨owner', gone', entries'⟩ := after
  obtain ⟨sameOwner, sameGone, same⟩ := kept
  dsimp only at sameOwner sameGone same
  subst sameOwner sameGone
  rw [Override.step?, Override.step?]
  rcases same with rfl | ⟨tail, rfl, leads, below⟩
  · exact onward?_kept done _ _
  · cases tail with
    | nil => cases below
    | cons key rest =>
      have final' : lowered key = key := lower key (by simp [leads])
      by_cases same : key = part
      · subst same
        cases rest with
        | nil => exact (distinct (Prod.ext rfl leads)).elim
        | cons next rest =>
          rw [write_cons_cons, Option.bind_eq_some_iff] at below
          obtain ⟨entered, found, below⟩ := below
          obtain ⟨child, wrote, rfl⟩ := Option.map_eq_some_iff.mp below
          have key' := resolveKey_set_self entries final (.map entered.1 child)
          rw [Spot.held?, Spot.held?, onward?_of_entered? found]
          dsimp only
          rw [key', Entries.field?, Entries.get?_set_own]
          refine .some ⟨rfl, rfl, .inr ⟨next :: rest, rfl, ?_, wrote⟩⟩
          rw [leads]
          exact List.append_cons gone' key (next :: rest)
      · obtain ⟨held, rfl, -⟩ := exists_set_of_write below
        have found := (field?_set_other entries final' final same held).2
        rw [Spot.held?, Spot.held?, found]
        exact onward?_kept done _ _

/-- After a setting elsewhere a path sets the same place. -/
theorem Kept.slot? {after : Spot} {path : List String} (kept : Kept place value spot after)
    (done : write (contents store place.1) place.2 value = some written)
    (lower : ∀ part ∈ place.2, lowered part = part) (lower' : ∀ part ∈ path, lowered part = part)
    (off : place ∉ trail store spot path) :
    slot? (Function.update store place.1 (.ofEntries written)) after path =
      slot? store spot path := by
  induction path generalizing spot after with
  | nil => rfl
  | cons part rest ih =>
    cases rest with
    | nil => simp [Override.slot?, Spot.place, kept.owner, kept.passed]
    | cons next rest =>
      obtain ⟨final, others⟩ := List.forall_mem_cons.mp lower'
      rw [trail, List.mem_cons, not_or] at off
      obtain ⟨distinct, off⟩ := off
      have further := kept.step? done lower final distinct
      rw [slot?_cons (List.cons_ne_nil _ _), slot?_cons (List.cons_ne_nil _ _)]
      generalize Override.step? store spot part = here at further off ⊢
      generalize Override.step? (Function.update store place.1 (.ofEntries written)) after part =
        there at further ⊢
      cases further with
      | none => rfl
      | some kept => exact ih kept others off

theorem slot?_update {path : List String}
    (done : write (contents store place.1) place.2 value = some written)
    (lower : ∀ part ∈ place.2, lowered part = part) (lower' : ∀ part ∈ path, lowered part = part)
    (off : place ∉ trail store (atRoot store) path) :
    let store' := Function.update store place.1 (.ofEntries written)
    slot? store' (atRoot store') path = slot? store (atRoot store) path :=
  (kept_contents done none).slot? done lower lower' off

end Update

/-! ### Places that a path comes past -/

theorem onward?_place {place : Place} {held : Option Value} {inside : Spot}
    (found : onward? store place held = some inside) :
    (inside.owner, inside.passed) = place ∨ inside.passed = [] := by
  unfold onward? at found
  split at found <;> cases found
  · exact .inl rfl
  · exact .inl rfl
  · exact .inl rfl
  · exact .inr rfl

/-- The parts of a place are parts of the path that sets it. -/
theorem mem_of_slot? {path : List String} {place : Place}
    (found : slot? store spot path = some place) {part : String} (member : part ∈ place.2) :
    part ∈ spot.passed ∨ part ∈ path := by
  induction path generalizing spot with
  | nil => cases found
  | cons first rest ih =>
    cases rest with
    | nil =>
      cases found
      exact List.mem_append.mp member
    | cons next rest =>
      obtain ⟨inside, stepped, found⟩ := Option.bind_eq_some_iff.mp found
      rcases ih found with passed | behind
      · rcases onward?_place stepped with same | start
        · have isPassed : inside.passed = spot.passed ++ [first] := congrArg Prod.snd same
          rw [isPassed, List.mem_append, List.mem_singleton] at passed
          exact passed.imp_right fun isFirst => List.mem_cons.mpr (.inl isFirst)
        · rw [start] at passed
          cases passed
      · exact .inr (.tail _ behind)

/-- A path comes past every place on the way from a mapping to the one that it sets there. -/
theorem mem_trail_of_slot? {path : List String} {place : Place}
    (found : slot? store spot path = some place) {before : List String}
    (begins : before <+: place.2) (longer : spot.owner = place.1 → ¬before <+: spot.passed)
    (nonempty : before ≠ []) : (place.1, before) ∈ trail store spot path := by
  induction path generalizing spot with
  | nil => cases found
  | cons part rest ih =>
    have here (same : spot.owner = place.1) (begins : before <+: spot.passed ++ [part]) :
        (place.1, before) = spot.place part := by
      rcases List.prefix_concat_iff.mp begins with rfl | shorter
      · rw [Spot.place, same]
      · exact absurd shorter (longer same)
    rw [trail]
    cases rest with
    | nil =>
      cases found
      rw [here rfl begins]
      exact .head _
    | cons next rest =>
      obtain ⟨inside, stepped, found⟩ := Option.bind_eq_some_iff.mp found
      rw [stepped]
      by_cases further : inside.owner = place.1 → ¬before <+: inside.passed
      · exact .tail _ (ih found further)
      · rw [Classical.not_imp, not_not] at further
        obtain ⟨own, within⟩ := further
        rcases onward?_place stepped with same | start
        · have isOwner : inside.owner = spot.owner := congrArg Prod.fst same
          have isPassed : inside.passed = spot.passed ++ [part] := congrArg Prod.snd same
          rw [here (isOwner.symm.trans own) (isPassed ▸ within)]
          exact .head _
        · rw [start, List.prefix_nil] at within
          exact absurd within nonempty

end Override

end MarkupLint
