import MarkupLint.Proofs.Layers
import MarkupLint.Proofs.Pieces

/-!
Variables that override settings, by their names. A name is the common beginning and then parts
joined by two underscores; of three underscores at a seam the last one belongs to the part behind
it (`Override.IsJoined`). The settings that an environment makes are told apart from writing them
(`Config.settings`). Main statement: a name that is joined from parts in lower case gives these
parts back, and an environment whose texts can all be read makes one setting for each variable, by
name, unless a name has nothing or an empty part behind its beginning
(`Config.settings_overrides`).
-/
namespace MarkupLint

namespace Override

open Text

variable {name rest : String} {parts : List String}

/-! ### Names -/

/-- A text that is parts joined by two underscores. The underscores stand in no part, and only the
last part may end with one: behind any other it would be taken for the first of the two. -/
structure IsJoined (rest : String) (parts : List String) : Prop where
  nonempty : parts ≠ []
  joined : "__".intercalate parts = rest
  whole : ∀ part ∈ parts, contains part "__" = false
  seams : ∀ part ∈ parts.dropLast, part.toList.getLast? ≠ some '_'

/-- Every text is joined from parts, in one way. -/
theorem splitText_eq_iff_isJoined : splitText "__" rest = parts ↔ IsJoined rest parts := by
  have whole : (∀ piece ∈ parts.map String.toList, ¬['_', '_'] <:+: piece) ↔
      ∀ part ∈ parts, contains part "__" = false := by
    simp only [List.forall_mem_map, ← Bool.not_eq_true, contains_eq_true_iff]
    rfl
  have seams : (∀ piece ∈ (parts.map String.toList).dropLast, piece.getLast? ≠ some '_') ↔
      ∀ part ∈ parts.dropLast, part.toList.getLast? ≠ some '_' := by
    rw [← List.map_dropLast, List.forall_mem_map]
  have cut : AreCut "__".toList (parts.map String.toList) ↔ parts ≠ [] ∧
      (∀ part ∈ parts, contains part "__" = false) ∧
        ∀ part ∈ parts.dropLast, part.toList.getLast? ≠ some '_' := by
    rw [← whole, ← seams]
    exact areCut_pair_iff.trans (and_congr_left' List.map_eq_nil_iff.not)
  rw [splitText_eq_iff (by decide), cut]
  constructor
  · rintro ⟨⟨nonempty, whole, seams⟩, joined⟩
    exact ⟨nonempty, joined, whole, seams⟩
  · rintro ⟨nonempty, joined, whole, seams⟩
    exact ⟨⟨nonempty, whole, seams⟩, joined⟩

/-- A name with nothing behind its beginning, or with an empty part there. -/
def IsMalformed (name : String) : Prop :=
  ∃ rest, name = overridePrefix ++ rest ∧ (rest = "" ∨ ∃ parts, IsJoined rest parts ∧ "" ∈ parts)

theorem begins_iff : overridePrefix.toList.isPrefixOf name.toList = true ↔
    ∃ rest, name = overridePrefix ++ rest := by
  rw [List.isPrefixOf_iff_prefix]
  constructor
  · rintro ⟨tail, same⟩
    exact ⟨String.ofList tail, String.toList_inj.mp (by simp [← same])⟩
  · rintro ⟨rest, rfl⟩
    exact ⟨rest.toList, String.toList_append.symm⟩

theorem path?_append (own : IsJoined rest parts) :
    path? (overridePrefix ++ rest) = some (if "" ∈ parts
      then .error (.malformedOverride (overridePrefix ++ rest)) else .ok (parts.map lowered)) := by
  have behind : String.ofList
      ((overridePrefix ++ rest).toList.drop overridePrefix.length) = rest := by
    rw [String.toList_append, ← String.length_toList, List.drop_left, String.ofList_toList]
  have empty : parts.any String.isEmpty = decide ("" ∈ parts) := by
    rw [Bool.eq_iff_iff, decide_eq_true_iff, List.any_eq_true]
    constructor
    · rintro ⟨part, member, isEmpty⟩
      rwa [String.isEmpty_iff.mp isEmpty] at member
    · exact fun member => ⟨"", member, rfl⟩
  rw [path?, if_pos (begins_iff.mpr ⟨rest, rfl⟩), behind, splitText_eq_iff_isJoined.mpr own]
  dsimp only
  rw [empty]
  split_ifs <;> simp_all

theorem isMalformed_append_iff (own : IsJoined rest parts) :
    IsMalformed (overridePrefix ++ rest) ↔ "" ∈ parts := by
  constructor
  · rintro ⟨rest', same, malformed⟩
    rw [← String.toList_inj, String.toList_append, String.toList_append,
      List.append_cancel_left_eq, String.toList_inj] at same
    subst same
    rcases malformed with rfl | ⟨parts', own', member⟩
    · rw [← splitText_eq_iff_isJoined.mpr own]
      decide
    · rwa [← splitText_eq_iff_isJoined.mpr own, splitText_eq_iff_isJoined.mpr own']
  · exact fun member => ⟨rest, rfl, .inr ⟨parts, own, member⟩⟩

/-- A variable's name is refused, or it is a path. -/
theorem path?_cases (begins : overridePrefix.toList.isPrefixOf name.toList = true) :
    (IsMalformed name ∧ path? name = some (.error (.malformedOverride name))) ∨
      ¬IsMalformed name ∧ ∃ rest parts, name = overridePrefix ++ rest ∧ IsJoined rest parts ∧
        path? name = some (.ok (parts.map lowered)) := by
  obtain ⟨rest, rfl⟩ := begins_iff.mp begins
  have own : IsJoined rest (splitText "__" rest) := splitText_eq_iff_isJoined.mp rfl
  rw [isMalformed_append_iff own, path?_append own]
  by_cases member : "" ∈ splitText "__" rest
  · exact .inl ⟨member, by rw [if_pos member]⟩
  · exact .inr ⟨member, rest, _, rfl, own, by rw [if_neg member]⟩

/-- Parts in lower case come back from the name that is joined from them. -/
theorem path?_of_isJoined (own : IsJoined rest parts)
    (lower : ∀ part ∈ parts, part ≠ "" ∧ lowered part = part) :
    path? (overridePrefix ++ rest) = some (.ok parts) := by
  have given : "" ∉ parts := fun member => (lower "" member).1 rfl
  have same : parts.map lowered = parts :=
    (List.map_congr_left fun part member => (lower part member).2).trans parts.map_id
  rw [path?_append own, if_neg given, same]

end Override

namespace Config

open Override

variable {environment named : List (String × String)} {base : Entries}

/-! ### Settings -/

/-- The settings that variables make, one after another, and what ends them before the last
variable, if anything does. -/
def settings : List (String × String) → List (List String × Value) × Option LoadError
  | [] => ([], none)
  | v :: rest =>
      match path? v.1 with
      | none => settings rest
      | some (.error e) => ([], some (.config e))
      | some (.ok path) =>
          match coerce v.2 with
          | .error e => ([], some (.conversion e))
          | .ok value => ((path, value) :: (settings rest).1, (settings rest).2)

/-- Write settings one after another. -/
def writeAll (base : Entries) (settings : List (List String × Value)) : Except LoadError Entries :=
  settings.foldlM (fun below setting =>
    (Override.set below setting.1 setting.2).mapError .config) base

/-- Overriding by variables is writing the settings that they make, up to what ends them. -/
theorem overrideAll_value_eq (base : Entries) (named : List (String × String)) :
    (overrideAll base named).value =
      (writeAll base (settings named).1).bind fun written =>
        (settings named).2.elim (.ok written) .error := by
  induction named generalizing base with
  | nil => rfl
  | cons v rest ih =>
    rw [overrideAll_value_cons, override, settings]
    cases path? v.1 with
    | none => exact ih base
    | some own =>
      cases own with
      | error e => rfl
      | ok path =>
        cases coerce v.2 with
        | error e => rfl
        | ok value =>
          dsimp only [writeAll]
          rw [List.foldlM_cons]
          cases Override.set base path value with
          | error e => rfl
          | ok next => exact ih next

/-- What a variable sets: the value of its text at the path of its name. -/
def Sets (v : String × String) (setting : List String × Value) : Prop :=
  ∃ rest parts, v.1 = overridePrefix ++ rest ∧ IsJoined rest parts ∧
    setting.1 = parts.map Text.lowered ∧ coerce v.2 = .ok setting.2

/-- Variables whose texts can be read make a setting each, up to the first name that is refused. -/
theorem settings_cases (begin : ∀ v ∈ named, overridePrefix.toList.isPrefixOf v.1.toList = true)
    (read : ∀ v ∈ named, ∃ value, coerce v.2 = .ok value) :
    ((∀ v ∈ named, ¬IsMalformed v.1) ∧ (settings named).2 = none ∧
      List.Forall₂ Sets named (settings named).1) ∨
    ∃ v ∈ named, IsMalformed v.1 ∧
      (settings named).2 = some (.config (.malformedOverride v.1)) := by
  induction named with
  | nil => exact .inl ⟨nofun, rfl, .nil⟩
  | cons v rest ih =>
    obtain ⟨begins, begin⟩ := List.forall_mem_cons.mp begin
    obtain ⟨⟨value, own⟩, read⟩ := List.forall_mem_cons.mp read
    rcases path?_cases begins with ⟨malformed, own⟩ | ⟨formed, tail, parts, same, joined, path⟩
    · exact .inr ⟨v, .head rest, malformed, by rw [settings, own]⟩
    · -- The name is a path and the text has a value, so the rest decides.
      have stepped : settings (v :: rest) =
          ((parts.map Text.lowered, value) :: (settings rest).1, (settings rest).2) := by
        rw [settings, path]
        dsimp only
        rw [own]
      rw [stepped]
      rcases ih begin read with ⟨others, done, each⟩ | ⟨w, member, malformed, ended⟩
      · refine .inl ⟨List.forall_mem_cons.mpr ⟨formed, others⟩, done, .cons ?_ each⟩
        exact ⟨tail, parts, same, joined, rfl, own⟩
      · exact .inr ⟨w, .tail _ member, malformed, ended⟩

theorem pairwise_overrides (environment : List (String × String)) :
    (overrides environment).Pairwise fun a b => a.1 ≤ b.1 := by
  have chained (a b c : String × String) : decide (a.1 ≤ b.1) → decide (b.1 ≤ c.1) →
      decide (a.1 ≤ c.1) := by simpa using String.le_trans
  have total (a b : String × String) : decide (a.1 ≤ b.1) || decide (b.1 ≤ a.1) := by
    simpa using String.le_total a.1 b.1
  exact (List.pairwise_mergeSort chained total _).imp of_decide_eq_true

/-- Parts in lower case come back from a name. The variables of an environment whose texts can all
be read make one setting each, by name, and if a name among them is refused an error of the
configuration instead; nothing else is done with them than to write these settings. -/
theorem settings_overrides (environment : List (String × String)) :
    (∀ rest parts, IsJoined rest parts → (∀ part ∈ parts, part ≠ "" ∧ Text.lowered part = part) →
      path? (overridePrefix ++ rest) = some (.ok parts)) ∧
    ((∀ v ∈ environment, overridePrefix.toList.isPrefixOf v.1.toList = true →
        ∃ value, coerce v.2 = .ok value) →
      ((∃ e, (settings (overrides environment)).2 = some (.config e)) ↔
        ∃ v ∈ environment, IsMalformed v.1) ∧
      ((¬∃ v ∈ environment, IsMalformed v.1) →
        ∃ named, named.Perm (environment.filter fun v =>
            overridePrefix.toList.isPrefixOf v.1.toList) ∧
          named.Pairwise (fun a b => a.1 ≤ b.1) ∧
          (settings (overrides environment)).2 = none ∧
          List.Forall₂ Sets named (settings (overrides environment)).1)) ∧
    ∀ base, (overrideAll base (overrides environment)).value =
      (writeAll base (settings (overrides environment)).1).bind fun written =>
        (settings (overrides environment)).2.elim (.ok written) .error := by
  refine ⟨fun rest parts => path?_of_isJoined, fun read => ?_,
    fun base => overrideAll_value_eq base _⟩
  have cases := settings_cases (fun v member => (mem_overrides.mp member).2)
    fun v member => read v (mem_overrides.mp member).1 (mem_overrides.mp member).2
  have among {v : String × String} (member : v ∈ environment) (malformed : IsMalformed v.1) :
      v ∈ overrides environment := by
    obtain ⟨rest, same, -⟩ := malformed
    exact mem_overrides.mpr ⟨member, begins_iff.mpr ⟨rest, same⟩⟩
  constructor
  · constructor
    · rintro ⟨e, ended⟩
      rcases cases with ⟨-, done, -⟩ | ⟨v, member, malformed, -⟩
      · rw [done] at ended
        cases ended
      · exact ⟨v, (mem_overrides.mp member).1, malformed⟩
    · rintro ⟨v, member, malformed⟩
      rcases cases with ⟨formed, -⟩ | ⟨w, -, -, ended⟩
      · exact absurd malformed (formed v (among member malformed))
      · exact ⟨_, ended⟩
  · intro formed
    rcases cases with ⟨-, done, each⟩ | ⟨v, member, malformed, -⟩
    · exact ⟨_, List.mergeSort_perm _ _, pairwise_overrides environment, done, each⟩
    · exact absurd ⟨v, (mem_overrides.mp member).1, malformed⟩ formed

theorem settings_overrides_of_three_underscores :
    path? "TSXLINT_checkers__timeout_seconds___x_" =
      some (.ok ["checkers", "timeout_seconds", "_x_"]) ∧
    (∃ e, (settings (overrides [("TSXLINT_A____B", "on")])).2 = some (.config e)) ∧
    ∃ named, named.Perm [("TSXLINT_B___C", "on"), ("TSXLINT_A", "5")] ∧
      named.Pairwise (fun a b => a.1 ≤ b.1) ∧
      (settings (overrides [("TSXLINT_B___C", "on"), ("HOME", "/root"), ("TSXLINT_A", "5")])).2 =
        none ∧
      List.Forall₂ Sets named
        (settings
          (overrides [("TSXLINT_B___C", "on"), ("HOME", "/root"), ("TSXLINT_A", "5")])).1 := by
  have empty : IsJoined "A____B" ["A", "", "B"] :=
    ⟨by decide, by decide, by decide, by decide⟩
  have three : IsJoined "B___C" ["B", "_C"] := ⟨by decide, by decide, by decide, by decide⟩
  have one : IsJoined "A" ["A"] := ⟨by decide, by decide, by decide, by decide⟩
  refine ⟨?_, ?_, ?_⟩
  · exact (settings_overrides []).1 "checkers__timeout_seconds___x_" _
      ⟨by decide, by decide, by decide, by decide⟩ (by decide)
  · refine ((settings_overrides [("TSXLINT_A____B", "on")]).2.1 ?_).1.mpr ?_
    · exact List.forall_mem_singleton.mpr fun _ => ⟨_, rfl⟩
    · exact ⟨_, .head _, (isMalformed_append_iff empty).mpr (by decide)⟩
  · refine ((settings_overrides [("TSXLINT_B___C", "on"), ("HOME", "/root"),
      ("TSXLINT_A", "5")]).2.1 ?_).2 ?_
    · simp only [List.forall_mem_cons]
      exact ⟨fun _ => ⟨_, rfl⟩, fun begins => absurd begins (by decide), fun _ => ⟨_, rfl⟩, nofun⟩
    · rintro ⟨v, member, malformed⟩
      simp only [List.mem_cons, List.not_mem_nil, or_false] at member
      rcases member with rfl | rfl | rfl
      · exact absurd ((isMalformed_append_iff three).mp malformed) (by decide)
      · obtain ⟨rest, same, -⟩ := malformed
        exact absurd (begins_iff.mpr ⟨rest, same⟩) (by decide)
      · exact absurd ((isMalformed_append_iff one).mp malformed) (by decide)

end Config

end MarkupLint
