import Mathlib.Data.List.Nodup
import MarkupLint.Project.Files

/-!
Trees of folders, read by the names that lead down them. The order in which a folder lists its
entries does not matter: two listings of a tree lead to the same files by the same names
(`Entry.Relisted.leadsTo`), also where two dots lead back up. Main statement: a path, whether it
starts in the project or at the topmost folder, leads to the same in two listings of the project
(`Project.find_relisted`).
-/
namespace MarkupLint

namespace Entry

/-- Names that lead down from an entry to another one. -/
def LeadsTo : Entry → List String → Entry → Prop
  | here, [], inner => here = inner
  | here, name :: rest, inner => ∃ entry, (name, entry) ∈ here.entries ∧ LeadsTo entry rest inner

/-- What an entry may be called: not by the two dots that lead back up, and by no name with the
slash that parts names. -/
def IsName (name : String) : Prop := name ≠ ".." ∧ '/' ∉ name.toList

instance (name : String) : Decidable (IsName name) :=
  inferInstanceAs (Decidable (name ≠ ".." ∧ '/' ∉ name.toList))

/-- What the names of a tree are like: no folder has two entries of one name. -/
inductive IsTree : Entry → Prop
  | file (content : FileContent) : IsTree (.file content)
  | folder {entries : Entries} (apart : (entries.map (·.1)).Nodup)
      (named : ∀ entry ∈ entries, IsName entry.1) (inner : ∀ entry ∈ entries, IsTree entry.2) :
      IsTree (.folder entries)

/-- The same tree, but for the order in which its folders list their entries. -/
inductive Relisted : Entry → Entry → Prop
  | refl (entry : Entry) : Relisted entry entry
  | trans {first second third : Entry} : Relisted first second → Relisted second third →
      Relisted first third
  | listing {entries others : Entries} : entries.Perm others →
      Relisted (.folder entries) (.folder others)
  | within {entry other : Entry} (front : Entries) (name : String) (back : Entries) :
      Relisted entry other →
      Relisted (.folder (front ++ (name, entry) :: back)) (.folder (front ++ (name, other) :: back))

variable {here other inner child : Entry} {name : String} {names more : List String}

/-! ### Entries -/

theorem IsTree.apart (tree : IsTree here) : (here.entries.map (·.1)).Nodup := by
  cases tree with
  | file => exact List.nodup_nil
  | folder apart => exact apart

theorem IsTree.entry (tree : IsTree here) (member : (name, child) ∈ here.entries) :
    IsName name ∧ IsTree child := by
  cases tree with
  | file => cases member
  | folder _ named inner => exact ⟨named _ member, inner _ member⟩

/-- In a tree a name is looked up to find the one entry that has it. -/
theorem IsTree.lookup_eq_some_iff (tree : IsTree here) :
    here.entries.lookup name = some child ↔ (name, child) ∈ here.entries := by
  have apart := tree.apart
  generalize here.entries = entries at apart
  rw [List.lookup_eq_some_iff]
  constructor
  · rintro ⟨front, back, rfl, -⟩
    simp
  · intro member
    obtain ⟨front, back, rfl⟩ := List.append_of_mem member
    refine ⟨front, back, rfl, fun pair before => ?_⟩
    rw [List.map_append, List.map_cons, List.nodup_middle, List.nodup_cons] at apart
    have off : name ∉ front.map (·.1) := fun inside => apart.1 (List.mem_append_left _ inside)
    rw [bne_iff_ne]
    rintro rfl
    exact off (List.mem_map_of_mem before)

/-! ### Listings -/

theorem Relisted.symm (relisted : Relisted here other) : Relisted other here := by
  induction relisted with
  | refl entry => exact .refl entry
  | trans _ _ first second => exact .trans second first
  | listing same => exact .listing same.symm
  | within front name back _ ih => exact .within front name back ih

theorem Relisted.isTree (relisted : Relisted here other) (tree : IsTree here) : IsTree other := by
  induction relisted with
  | refl => exact tree
  | trans _ _ first second => exact second (first tree)
  | listing same =>
    cases tree with
    | folder apart named inner =>
      exact .folder ((same.map _).nodup_iff.mp apart)
        (fun entry member => named entry (same.mem_iff.mpr member))
        (fun entry member => inner entry (same.mem_iff.mpr member))
  | within front name back _ ih =>
    cases tree with
    | folder apart named inner =>
      simp only [List.forall_mem_append, List.forall_mem_cons] at named inner
      refine .folder (by simpa using apart) ?_ ?_ <;>
        simp only [List.forall_mem_append, List.forall_mem_cons]
      · exact named
      · exact ⟨inner.1, ih inner.2.1, inner.2.2⟩

theorem Relisted.entry (relisted : Relisted here other) (member : (name, child) ∈ here.entries) :
    ∃ same, (name, same) ∈ other.entries ∧ Relisted child same := by
  induction relisted generalizing child with
  | refl => exact ⟨child, member, .refl child⟩
  | trans _ _ first second =>
    obtain ⟨between, found, toBetween⟩ := first member
    obtain ⟨same, again, toSame⟩ := second found
    exact ⟨same, again, toBetween.trans toSame⟩
  | listing same => exact ⟨child, same.mem_iff.mp member, .refl child⟩
  | @within entry changed front own back inside _ =>
    rcases List.mem_append.mp member with before | member
    · exact ⟨child, List.mem_append_left _ before, .refl child⟩
    rcases List.mem_cons.mp member with here | after
    · obtain ⟨rfl, rfl⟩ := Prod.mk.inj here
      exact ⟨changed, List.mem_append_right _ List.mem_cons_self, inside⟩
    · exact ⟨child, List.mem_append_right _ (List.mem_cons_of_mem _ after), .refl child⟩

theorem Relisted.eq_file {content : FileContent} (relisted : Relisted (.file content) other) :
    other = .file content := by
  generalize start : Entry.file content = entry at relisted
  induction relisted with
  | refl => rfl
  | trans _ _ first second =>
    have same := first start
    exact (second (start.trans same.symm)).trans same
  | listing => cases start
  | within => cases start

theorem Relisted.exists_folder {entries : Entries} (relisted : Relisted (.folder entries) other) :
    ∃ others, other = .folder others := by
  cases other with
  | folder others => exact ⟨others, rfl⟩
  | file content => cases relisted.symm.eq_file

/-- Down another listing of the same tree the same names lead. -/
theorem Relisted.leadsTo (relisted : Relisted here other) (leads : here.LeadsTo names inner) :
    ∃ same, other.LeadsTo names same ∧ Relisted inner same := by
  induction names generalizing here other with
  | nil =>
    subst leads
    exact ⟨other, rfl, relisted⟩
  | cons name rest ih =>
    obtain ⟨child, member, further⟩ := leads
    obtain ⟨same, found, relisted⟩ := relisted.entry member
    obtain ⟨last, leads, further⟩ := ih relisted further
    exact ⟨last, ⟨same, found, leads⟩, further⟩

/-! ### Following a path -/

/-- Where one name of a path leads, with the folders that are then above. -/
def advance (above : List Entry) (here : Entry) (name : String) :
    Except ReadError (List Entry × Entry) :=
  match here with
  | file _ => .error .notAFolder
  | folder entries =>
      if name = ".." then
        match above with
        | parent :: others => .ok (others, parent)
        | [] => .ok ([], here)
      else
        match entries.lookup name with
        | some entry => .ok (here :: above, entry)
        | none => .error (if isLongName name then .tooLong else .notFound)

variable {above others : List Entry}

theorem follow_cons (above : List Entry) (here : Entry) (name : String) (rest : List String) :
    follow above here (name :: rest) =
      (advance above here name).bind fun place => follow place.1 place.2 rest := by
  cases here with
  | file => rfl
  | folder entries =>
    conv_lhs => unfold follow
    unfold advance
    by_cases up : name = ".."
    · cases above <;> simp [up, Except.bind]
    · cases held : entries.lookup name <;> simp [up, held, Except.bind]

/-- A folder and those above it are trees. -/
def AreTrees (above : List Entry) (here : Entry) : Prop :=
  ∀ entry ∈ here :: above, IsTree entry

theorem AreTrees.advance (trees : AreTrees above here) {place : List Entry × Entry}
    (found : advance above here name = .ok place) : AreTrees place.1 place.2 := by
  obtain ⟨tree, aboveTrees⟩ := List.forall_mem_cons.mp trees
  cases here with
  | file => cases found
  | folder entries =>
    unfold Entry.advance at found
    dsimp only at found
    split at found
    next =>
      cases above <;> cases found
      · exact trees
      · exact aboveTrees
    next =>
      split at found <;> cases found
      next entry held =>
        exact List.forall_mem_cons.mpr ⟨(tree.entry (tree.lookup_eq_some_iff.mp held)).2, trees⟩

/-- A name that leads down is followed. -/
theorem advance_of_mem (above : List Entry) (tree : IsTree here)
    (member : (name, child) ∈ here.entries) :
    advance above here name = .ok (here :: above, child) := by
  cases here with
  | file => cases member
  | folder entries =>
    have held : entries.lookup name = some child := tree.lookup_eq_some_iff.mpr member
    unfold advance
    dsimp only
    rw [if_neg (tree.entry member).1.1, held]

theorem follow_of_leadsTo (trees : AreTrees above here) (leads : here.LeadsTo names inner) :
    follow above here names = .ok inner := by
  induction names generalizing above here with
  | nil => exact congrArg Except.ok leads
  | cons name rest ih =>
    obtain ⟨child, member, further⟩ := leads
    have step := advance_of_mem above (trees here List.mem_cons_self) member
    rw [follow_cons, step]
    exact ih (trees.advance step) further

theorem no_slash_of_advance (tree : IsTree here) {place : List Entry × Entry}
    (found : advance above here name = .ok place) : '/' ∉ name.toList := by
  cases here with
  | file => cases found
  | folder entries =>
    unfold Entry.advance at found
    dsimp only at found
    split at found
    next up => rw [up]; decide
    next =>
      split at found <;> cases found
      next entry held => exact (tree.entry (tree.lookup_eq_some_iff.mp held)).1.2

/-- Names that lead down from where a path ends lead on from it. -/
theorem follow_append (trees : AreTrees above here) {reached : Entry}
    (found : follow above here names = .ok reached) (leads : reached.LeadsTo more inner) :
    follow above here (names ++ more) = .ok inner := by
  induction names generalizing above here with
  | nil =>
    cases found
    exact follow_of_leadsTo trees leads
  | cons name rest ih =>
    rw [follow_cons] at found
    rw [List.cons_append, follow_cons]
    cases step : advance above here name with
    | error refusal =>
      rw [step] at found
      cases found
    | ok place =>
      rw [step] at found
      exact ih (trees.advance step) found

/-- Names that are followed through a tree have no slash: they lead down or back up. -/
theorem no_slash_of_follow (trees : AreTrees above here) {reached : Entry}
    (found : follow above here names = .ok reached) :
    IsTree reached ∧ ∀ name ∈ names, '/' ∉ name.toList := by
  induction names generalizing above here with
  | nil =>
    cases found
    exact ⟨trees _ List.mem_cons_self, nofun⟩
  | cons name rest ih =>
    rw [follow_cons] at found
    cases step : advance above here name with
    | error refusal =>
      rw [step] at found
      cases found
    | ok place =>
      rw [step] at found
      obtain ⟨tree, others⟩ := ih (trees.advance step) found
      refine ⟨tree, List.forall_mem_cons.mpr ⟨?_, others⟩⟩
      exact no_slash_of_advance (trees here List.mem_cons_self) step

/-- Two results that are the same refusal or hold what is alike. -/
inductive SameResult {α : Type} (alike : α → α → Prop) :
    Except ReadError α → Except ReadError α → Prop
  | refused (refusal : ReadError) : SameResult alike (.error refusal) (.error refusal)
  | found {one same : α} : alike one same → SameResult alike (.ok one) (.ok same)

theorem SameResult.bind {α β : Type} {alike : α → α → Prop} {alike' : β → β → Prop}
    {result others : Except ReadError α} {next nextOther : α → Except ReadError β}
    (same : SameResult alike result others)
    (further : ∀ one other, result = .ok one → alike one other →
      SameResult alike' (next one) (nextOther other)) :
    SameResult alike' (result.bind next) (others.bind nextOther) := by
  cases same with
  | refused refusal => exact .refused refusal
  | found alike => exact further _ _ rfl alike

/-- A place and the folders above it, in two listings of a tree. -/
def SamePlace (place other : List Entry × Entry) : Prop :=
  List.Forall₂ Relisted place.1 other.1 ∧ Relisted place.2 other.2

theorem SamePlace.advance (same : SamePlace (above, here) (others, other)) (tree : IsTree here)
    (name : String) :
    SameResult SamePlace (advance above here name) (advance others other name) := by
  obtain ⟨alike, relisted⟩ := same
  dsimp only at alike relisted
  cases here with
  | file content =>
    obtain rfl := relisted.eq_file
    exact .refused .notAFolder
  | folder entries =>
    obtain ⟨listed, rfl⟩ := relisted.exists_folder
    unfold Entry.advance
    dsimp only
    by_cases up : name = ".."
    · rw [if_pos up, if_pos up]
      cases alike with
      | nil => exact .found ⟨.nil, relisted⟩
      | cons parents rest => exact .found ⟨rest, parents⟩
    · rw [if_neg up, if_neg up]
      have otherTree := relisted.isTree tree
      cases held : entries.lookup name with
      | some entry =>
        obtain ⟨same, found, alikeEntry⟩ := relisted.entry (tree.lookup_eq_some_iff.mp held)
        have listedHeld : listed.lookup name = some same := otherTree.lookup_eq_some_iff.mpr found
        rw [listedHeld]
        exact .found ⟨.cons relisted alike, alikeEntry⟩
      | none =>
        have absent : listed.lookup name = none := by
          rw [Option.eq_none_iff_forall_ne_some]
          intro entry found
          obtain ⟨same, member, -⟩ := relisted.symm.entry (otherTree.lookup_eq_some_iff.mp found)
          have present : entries.lookup name = some same := tree.lookup_eq_some_iff.mpr member
          rw [held] at present
          cases present
        rw [absent]
        exact .refused _

/-- A path leads to the same in two listings of a tree. -/
theorem SamePlace.follow (same : SamePlace (above, here) (others, other))
    (trees : AreTrees above here) :
    SameResult Relisted (follow above here names) (follow others other names) := by
  induction names generalizing above others here other with
  | nil => exact .found same.2
  | cons name rest ih =>
    rw [follow_cons, follow_cons]
    exact (same.advance (trees here List.mem_cons_self) name).bind fun place other step alike =>
      ih alike (trees.advance step)

end Entry

namespace Project

variable {project other : Project}

/-- Where the project lies, its folder may be listed in another order. -/
theorem relisted_system (located : other.location = project.location)
    (relisted : Entry.Relisted project.root other.root) :
    Entry.Relisted project.system other.system := by
  unfold system
  rw [located]
  induction project.location with
  | nil => exact relisted
  | cons name rest ih => exact .within [] name [] ih

/-- A path leads to the same in a project whose folders list their entries in another order. -/
theorem find_relisted (tree : Entry.IsTree project.system)
    (located : other.location = project.location)
    (relisted : Entry.Relisted project.root other.root) (path : Path) :
    Entry.SameResult Entry.Relisted (project.find path) (other.find path) := by
  have same : other.fromTop? path = project.fromTop? path := by
    unfold fromTop?
    rw [located]
  unfold find
  rw [same]
  split_ifs
  · exact .refused .nullCharacter
  · exact .refused .tooLong
  · cases project.fromTop? path with
    | none => exact .refused .notFound
    | some names =>
      exact Entry.SamePlace.follow ⟨.nil, relisted_system located relisted⟩
        (List.forall_mem_singleton.mpr tree)

end Project

end MarkupLint
