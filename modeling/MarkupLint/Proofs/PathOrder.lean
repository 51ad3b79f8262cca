import Mathlib.Data.List.Lex
import Mathlib.Data.String.Basic
import MarkupLint.Project.Discover
import MarkupLint.Proofs.Pieces

/-!
The files of a run stand in the order of their paths. Paths are ordered as their lists of parts
are, and those with the same parts are taken for one; they are one if they are such as a text can
spell (`Path.eq_of_parts`). Main statement: the files that are found for any paths, named or below
a named folder, stand in strictly rising order, so that each comes once.
-/
namespace MarkupLint

/-- Paths are compared part by part, as lists are. -/
theorem Path.before_iff_lt (parts others : List String) :
    Path.before parts others = true ↔ parts < others := by
  induction parts generalizing others with
  | nil => cases others <;> simp [Path.before]
  | cons part rest ih =>
    cases others with
    | nil => simp [Path.before]
    | cons other others =>
      rw [Path.before, List.cons_lt_cons_iff]
      split
      next same => simp [same, ih]
      next differs => simp [differs]

/-- A path such as a text spells: it has one of the three roots, and no name with a slash. -/
structure Path.IsSpelled (path : Path) : Prop where
  root : path.root = "" ∨ path.root = "/" ∨ path.root = "//"
  names : ∀ name ∈ path.names, '/' ∉ name.toList

theorem Path.isSpelled_ofText (text : String) : (Path.ofText text).IsSpelled where
  root := by
    rw [ofText, rootOf]
    split <;> simp
  names := by
    intro name member
    have piece := List.mem_map_of_mem (f := String.toList) (List.mem_filter.mp member).1
    rw [Text.map_toList_splitText] at piece
    have cut := Text.areCut_split (List.cons_ne_nil '/' []) text.toList
    exact (Text.areCut_singleton_iff.mp cut).2 name.toList piece

/-- Names that have no slash are not the parts of a path that has a root. -/
theorem Path.names_ne_cons {names : List String} (plain : ∀ name ∈ names, '/' ∉ name.toList)
    {root : String} (rooted : root = "/" ∨ root = "//") (rest : List String) :
    names ≠ root :: rest := by
  rintro rfl
  have slash : '/' ∈ root.toList := by rcases rooted with rfl | rfl <;> decide
  exact plain root List.mem_cons_self slash

/-- A path that a text spells is told from others by its parts. -/
theorem Path.eq_of_parts {path other : Path} (spelled : path.IsSpelled) (too : other.IsSpelled)
    (same : path.parts = other.parts) : path = other := by
  have relative {path : Path} (none : path.root = "") : path.parts = path.names := by
    simp [parts, isAbsolute, none]
  have absolute {path : Path} (rooted : path.root = "/" ∨ path.root = "//") :
      path.parts = path.root :: path.names := by
    rcases rooted with root | root <;> simp [parts, isAbsolute, root]
  rcases spelled.root with none | rooted <;> rcases too.root with otherNone | otherRooted
  · rw [relative none, relative otherNone] at same
    cases path
    cases other
    simp_all
  · rw [relative none, absolute otherRooted] at same
    exact absurd same (names_ne_cons spelled.names otherRooted _)
  · rw [absolute rooted, relative otherNone] at same
    exact absurd same.symm (names_ne_cons too.names rooted _)
  · rw [absolute rooted, absolute otherRooted, List.cons.injEq] at same
    cases path
    cases other
    simp_all

namespace Project

variable (project : Project) (scan : ScanSettings)

/-- Strictly rising by path. -/
def InPathOrder (files : List SourceFile) : Prop :=
  files.Pairwise fun file later => file.path.parts < later.path.parts

theorem mem_insert {file other : SourceFile} {files : List SourceFile}
    (member : other ∈ insert file files) : other = file ∨ other ∈ files := by
  induction files with
  | nil => exact Or.inl (List.mem_singleton.mp member)
  | cons first rest ih =>
    rw [insert] at member
    split at member
    · exact Or.inr member
    split at member
    · exact List.mem_cons.mp member
    · rcases List.mem_cons.mp member with rfl | later
      · exact Or.inr List.mem_cons_self
      · exact (ih later).imp_right (List.mem_cons_of_mem first)

theorem inPathOrder_insert (file : SourceFile) {files : List SourceFile}
    (ordered : InPathOrder files) : InPathOrder (insert file files) := by
  induction files with
  | nil => exact List.pairwise_singleton _ _
  | cons first rest ih =>
    obtain ⟨least, rising⟩ := List.pairwise_cons.mp ordered
    rw [insert]
    split
    next => exact ordered
    next differs =>
      split
      next earlier =>
        have below := (Path.before_iff_lt _ _).mp earlier
        refine List.pairwise_cons.mpr ⟨fun later member => ?_, ordered⟩
        rcases List.mem_cons.mp member with rfl | member
        · exact below
        · exact below.trans (least later member)
      next notEarlier =>
        have above : first.path.parts < file.path.parts :=
          lt_of_le_of_ne (not_lt.mp fun below => notEarlier ((Path.before_iff_lt _ _).mpr below))
            (Ne.symm differs)
        refine List.pairwise_cons.mpr ⟨fun later member => ?_, ih rising⟩
        rcases mem_insert member with rfl | member
        · exact above
        · exact least later member

/-- The files that are found for any paths stand in the order of their paths, each of them once. -/
theorem inPathOrder_discover {paths : List Path} {files : List SourceFile}
    (found : (project.discover scan paths).value = .ok files) : InPathOrder files := by
  unfold discover at found
  cases expanded : (project.expandAll scan paths).value with
  | error e => simp [expanded, Except.map] at found
  | ok all =>
    obtain rfl : all.foldl (fun files file => insert file files) [] = files := by
      simpa [expanded, Except.map] using found
    exact List.foldlRecOn all _ List.Pairwise.nil fun files ordered file _ =>
      inPathOrder_insert file ordered

end Project

end MarkupLint
