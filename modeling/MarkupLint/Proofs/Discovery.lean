import Mathlib.Data.List.Sort
import MarkupLint.Proofs.FolderTree
import MarkupLint.Proofs.PathOrder

/-!
Which files a run finds. The walk below a named folder comes to a file just if names lead down to it
through folders that are all looked into (`Entry.mem_filesAmong_iff`). Main statement: what is found
for some paths are the files named and those looked for below a folder named, in the order of
paths, and neither the order and number of the paths nor the order in which folders list their
entries changes that; a path that is too long to be looked up stops the whole
(`Project.discover_cases`).
-/
namespace MarkupLint

/-- The path that names lead to from a folder. -/
def Path.under (path : Path) (names : List String) : Path :=
  { path with names := path.names ++ names }

theorem Path.under_child (path : Path) (name : String) (names : List String) :
    (path.child name).under names = path.under (name :: names) := by
  simp [Path.under, Path.child]

namespace Entry

variable (enter : Path → Bool) (keep : String → Bool)

/-! ### The walk -/

/-- A file that names lead down to, whose own name is wanted, and before which every folder on the
way is looked into. -/
def IsFound (path : Path) (here : Entry) (found : Path × FileContent) : Prop :=
  ∃ folders name, found.1 = path.under (folders ++ [name]) ∧
    here.LeadsTo (folders ++ [name]) (.file found.2) ∧ keep name = true ∧
      ∀ way, way <+: folders → way ≠ [] → enter (path.under way) = true

variable {enter keep} {path : Path} {found : Path × FileContent} {name : String}

theorem leadsTo_file_iff {content inner : FileContent} {names : List String} :
    (file content).LeadsTo names (.file inner) ↔ names = [] ∧ content = inner := by
  cases names <;> simp [LeadsTo, Entry.entries]

theorem leadsTo_single_iff {entry inner : Entry} {first : String} {rest : List String} :
    (folder [(name, entry)]).LeadsTo (first :: rest) inner ↔
      first = name ∧ entry.LeadsTo rest inner := by
  simp [LeadsTo, Entry.entries]

theorem isFound_file_iff {content : FileContent} :
    IsFound enter keep path (.folder [(name, .file content)]) found ↔
      keep name = true ∧ found = (path.child name, content) := by
  constructor
  · rintro ⟨folders, last, place, leads, wanted, -⟩
    cases folders with
    | nil =>
      obtain ⟨rfl, inside⟩ := leadsTo_single_iff.mp leads
      exact ⟨wanted, Prod.ext place (leadsTo_file_iff.mp inside).2.symm⟩
    | cons folder rest =>
      obtain ⟨-, inside⟩ := leadsTo_single_iff.mp leads
      simp [leadsTo_file_iff] at inside
  · rintro ⟨wanted, rfl⟩
    refine ⟨[], name, rfl, leadsTo_single_iff.mpr ⟨rfl, rfl⟩, wanted, fun way first some => ?_⟩
    exact absurd (List.prefix_nil.mp first) some

theorem isFound_folder_iff {entries : Entries} :
    IsFound enter keep path (.folder [(name, .folder entries)]) found ↔
      enter (path.child name) = true ∧
        IsFound enter keep (path.child name) (.folder entries) found := by
  constructor
  · rintro ⟨folders, last, place, leads, wanted, entered⟩
    cases folders with
    | nil =>
      obtain ⟨-, inside⟩ := leadsTo_single_iff.mp leads
      cases inside
    | cons folder rest =>
      obtain ⟨rfl, inside⟩ := leadsTo_single_iff.mp leads
      refine ⟨entered [folder] (by simp) (by simp), rest, last, ?_, inside, wanted, ?_⟩
      · rw [place, Path.under_child, List.cons_append]
      · intro way first _
        rw [Path.under_child]
        exact entered (folder :: way) ((List.prefix_cons_inj folder).mpr first) (by simp)
  · rintro ⟨looked, rest, last, place, leads, wanted, entered⟩
    refine ⟨name :: rest, last, ?_, leadsTo_single_iff.mpr ⟨rfl, leads⟩, wanted, ?_⟩
    · rw [place, Path.under_child, List.cons_append]
    · intro way first some
      rcases List.prefix_cons_iff.mp first with rfl | ⟨further, rfl, inside⟩
      · exact absurd rfl some
      · rw [← Path.under_child]
        cases further with
        | nil => simpa [Path.under] using looked
        | cons next more => exact entered _ inside (by simp)

theorem isFound_cons_iff {entry : String × Entry} {rest : Entries} :
    IsFound enter keep path (.folder (entry :: rest)) found ↔
      IsFound enter keep path (.folder [entry]) found ∨
        IsFound enter keep path (.folder rest) found := by
  have split (folders : List String) (last : String) (inner : Entry) :
      (folder (entry :: rest)).LeadsTo (folders ++ [last]) inner ↔
        (folder [entry]).LeadsTo (folders ++ [last]) inner ∨
          (folder rest).LeadsTo (folders ++ [last]) inner := by
    cases folders <;> simp [LeadsTo, Entry.entries, or_and_right, exists_or]
  simp only [IsFound, split, or_and_right, and_or_left, exists_or]

theorem not_isFound_nil : ¬IsFound enter keep path (.folder []) found := by
  rintro ⟨folders, last, -, leads, -⟩
  cases folders <;> simp [LeadsTo, Entry.entries] at leads

variable (enter keep)

mutual

theorem mem_filesAt_iff (path : Path) (name : String) (found : Path × FileContent) :
    ∀ entry : Entry, found ∈ filesAt enter keep path name entry ↔
      IsFound enter keep path (.folder [(name, entry)]) found
  | file content => by
    rw [filesAt, isFound_file_iff, List.mem_ite_nil_right, List.mem_singleton]
  | folder entries => by
    rw [filesAt, isFound_folder_iff, List.mem_ite_nil_right,
      mem_filesAmong_iff (path.child name) found entries]

/-- The walk finds a file if names lead to it through folders that are looked into. -/
theorem mem_filesAmong_iff (path : Path) (found : Path × FileContent) :
    ∀ entries : List (String × Entry), found ∈ filesAmong enter keep path entries ↔
      IsFound enter keep path (.folder entries) found
  | [] => iff_of_false List.not_mem_nil not_isFound_nil
  | (name, entry) :: rest => by
    rw [filesAmong, filesUnder, List.mem_append, isFound_cons_iff,
      mem_filesAt_iff path name found entry, mem_filesAmong_iff path found rest]

end

end Entry

namespace Project

open Entry

variable {project other : Project} {scan : ScanSettings} {path : Path} {file : SourceFile}

/-- A file below a folder that is looked for: its extension is one of those that are scanned, no
folder between them is excluded by its name, and each of these can be listed. -/
def IsSought (scan : ScanSettings) (base : Path) (here : Entry) (file : SourceFile) : Prop :=
  ∃ folders name, file.path = base.under (folders ++ [name]) ∧
    here.LeadsTo (folders ++ [name]) (.file file.content) ∧
    Text.lowered (Path.suffixOf name) ∈ scan.extensions ∧
    (∀ folder ∈ folders, folder ∉ scan.excludeDirs) ∧
    ∀ way, way <+: folders → way ≠ [] → base.isLongFrom (base.under way) = false

/-- A file that a path stands for: the file it names, or one that is looked for below the folder it
names. -/
def StandsFor (project : Project) (scan : ScanSettings) (path : Path) (file : SourceFile) : Prop :=
  (file.path = path ∧ project.find path = .ok (.file file.content)) ∨
    ∃ entries, project.find path = .ok (.folder entries) ∧
      IsSought scan path (.folder entries) file

/-! ### One path -/

theorem name_under_concat (base : Path) (way : List String) (folder : String) :
    (base.under (way ++ [folder])).name = folder := by
  simp [Path.name, Path.under]

theorem isFound_iff_isSought {base : Path} {here : Entry} :
    IsFound (isEntered scan base) (isWanted scan) base here (file.path, file.content) ↔
      IsSought scan base here file := by
  have entered (folders : List String) :
      (∀ way, way <+: folders → way ≠ [] → isEntered scan base (base.under way) = true) ↔
        (∀ folder ∈ folders, folder ∉ scan.excludeDirs) ∧
          ∀ way, way <+: folders → way ≠ [] → base.isLongFrom (base.under way) = false := by
    constructor
    · intro looked
      refine ⟨fun folder member excluded => ?_, fun way first some => ?_⟩
      · -- the folder is the last one of what leads to it
        obtain ⟨front, back, rfl⟩ := List.append_of_mem member
        have here := looked (front ++ [folder]) ⟨back, by simp⟩ (by simp)
        rw [isEntered, name_under_concat] at here
        simp [excluded] at here
      · have here := looked way first some
        simp only [isEntered, Bool.and_eq_true, Bool.not_eq_true'] at here
        exact here.2
    · rintro ⟨allowed, short⟩ way first some
      have last : way.dropLast ++ [way.getLast some] = way := List.dropLast_append_getLast some
      have apart := allowed _ (first.subset (List.getLast_mem some))
      rw [isEntered, short way first some, ← last, name_under_concat]
      simp [apart]
  simp only [IsFound, IsSought, entered, isWanted, List.contains_iff_mem]

/-- The files that a path stands for are found unless the path is too long. -/
theorem expand_cases (project : Project) (scan : ScanSettings) (path : Path) :
    project.find path = .error .tooLong ∧ (project.expand scan path).value = .error .tooLong ∨
      project.find path ≠ .error .tooLong ∧
        ∃ files, (project.expand scan path).value = .ok files ∧
          ∀ file, file ∈ files ↔ project.StandsFor scan path file := by
  unfold expand
  split
  next content found =>
    refine .inr ⟨by simp [found], _, rfl, fun file => ?_⟩
    cases file
    simp [StandsFor, found, eq_comm]
  next entries found =>
    refine .inr ⟨by simp [found], _, rfl, fun file => ?_⟩
    have same : file ∈ (filesAmong (isEntered scan path) (isWanted scan) path entries).map
        (fun below => ⟨below.1, below.2⟩) ↔
        (file.path, file.content) ∈
          filesAmong (isEntered scan path) (isWanted scan) path entries := by
      cases file
      simp
    rw [same, mem_filesAmong_iff, isFound_iff_isSought]
    simp [StandsFor, found]
  next found => exact .inl ⟨found, rfl⟩
  next refusal other found =>
    refine .inr ⟨by simpa [found] using other, [], rfl, fun file => ?_⟩
    simp [StandsFor, found]

/-! ### Several paths -/

variable {paths : List Path}

theorem expandAll_cases (project : Project) (scan : ScanSettings) (paths : List Path) :
    (∃ path ∈ paths, project.find path = .error .tooLong) ∧
        (project.expandAll scan paths).value = .error .tooLong ∨
      (∀ path ∈ paths, project.find path ≠ .error .tooLong) ∧
        ∃ files, (project.expandAll scan paths).value = .ok files ∧
          ∀ file, file ∈ files ↔ ∃ path ∈ paths, project.StandsFor scan path file := by
  induction paths with
  | nil => exact .inr ⟨by simp, [], rfl, by simp⟩
  | cons path rest ih =>
    rw [expandAll]
    rcases project.expand_cases scan path with
      ⟨tooLong, refused⟩ | ⟨short, files, expanded, stands⟩
    · refine .inl ⟨⟨path, List.mem_cons_self, tooLong⟩, ?_⟩
      simp [refused]
    · simp only [expanded]
      rcases ih with ⟨⟨later, member, tooLong⟩, refused⟩ | ⟨allShort, others, found, members⟩
      · refine .inl ⟨⟨later, List.mem_cons_of_mem path member, tooLong⟩, ?_⟩
        simp [refused, Except.map]
      · refine .inr ⟨List.forall_mem_cons.mpr ⟨short, allShort⟩, files ++ others, ?_,
          fun file => ?_⟩
        · simp [found, Except.map]
        · rw [List.mem_append, stands, members, List.exists_mem_cons_iff]

/-- What a path leads to is what its names lead to from the topmost folder. -/
theorem exists_follow_of_find {entry : Entry} (found : project.find path = .ok entry) :
    ∃ names, project.fromTop? path = some names ∧
      project.system.follow [] names = .ok entry := by
  unfold find at found
  split at found
  next => cases found
  next =>
    split at found
    next => cases found
    next =>
      split at found
      next names place => exact ⟨names, place, found⟩
      next => cases found

theorem find_of_isLongName {entries : Entry.Entries} {name : String} (down : name ≠ "..")
    (noNull : Path.hasNull ⟨"", [name]⟩ = false) (short : Path.isLong ⟨"", [name]⟩ = false)
    (absent : entries.lookup name = none) (long : isLongName name = true) :
    find { root := .folder entries } ⟨"", [name]⟩ = .error .tooLong := by
  simp [find, noNull, short, fromTop?, system, follow, down, absent, long]

theorem fromTop?_cases {names : List String} (place : project.fromTop? path = some names) :
    (path.root = "" ∨ path.root = "/" ∨ path.root = "//") ∧ path.names <:+ names := by
  unfold fromTop? at place
  split at place <;> cases place
  next relative => exact ⟨.inl relative, List.suffix_append _ _⟩
  next single => exact ⟨.inr (.inl single), List.suffix_refl _⟩
  next double => exact ⟨.inr (.inr double), List.suffix_refl _⟩

theorem fromTop?_under {names : List String} (place : project.fromTop? path = some names)
    (more : List String) : project.fromTop? (path.under more) = some (names ++ more) := by
  unfold fromTop? at place ⊢
  unfold Path.under
  dsimp only
  split at place <;> cases place
  next => rw [List.append_assoc]
  next => rfl
  next => rfl

/-- A path that leads somewhere is such as a text spells, as no name in a tree has a slash. -/
theorem isSpelled_of_fromTop? (tree : IsTree project.system) {names : List String}
    (place : project.fromTop? path = some names) {entry : Entry}
    (found : project.system.follow [] names = .ok entry) : path.IsSpelled := by
  obtain ⟨rooted, part⟩ := fromTop?_cases place
  have plain := (no_slash_of_follow (List.forall_mem_singleton.mpr tree) found).2
  exact ⟨rooted, fun name member => plain name (part.subset member)⟩

/-- The path of a file that a path stands for leads to the file. -/
theorem exists_follow_of_standsFor (tree : IsTree project.system)
    (stands : project.StandsFor scan path file) :
    ∃ names, project.fromTop? file.path = some names ∧
      project.system.follow [] names = .ok (.file file.content) := by
  rcases stands with ⟨rfl, found⟩ | ⟨entries, found, folders, name, under, leads, -⟩
  · exact exists_follow_of_find found
  · obtain ⟨names, place, reached⟩ := exists_follow_of_find found
    have trees : AreTrees [] project.system := List.forall_mem_singleton.mpr tree
    refine ⟨names ++ (folders ++ [name]), ?_, follow_append trees reached leads⟩
    rw [under]
    exact fromTop?_under place _

theorem eq_of_parts (tree : IsTree project.system) {first second : Path} {one two : SourceFile}
    (found : project.StandsFor scan first one) (again : project.StandsFor scan second two)
    (same : one.path.parts = two.path.parts) : one = two := by
  obtain ⟨names, place, here⟩ := exists_follow_of_standsFor tree found
  obtain ⟨others, otherPlace, there⟩ := exists_follow_of_standsFor tree again
  have path : one.path = two.path := Path.eq_of_parts (isSpelled_of_fromTop? tree place here)
    (isSpelled_of_fromTop? tree otherPlace there) same
  rw [path, otherPlace] at place
  cases place
  rw [here] at there
  cases one
  cases two
  simp_all

/-! ### Files in order -/

theorem mem_insert_iff {files : List SourceFile} {added : SourceFile}
    (apart : ∀ held ∈ files, held.path.parts = added.path.parts → held = added) :
    file ∈ insert added files ↔ file = added ∨ file ∈ files := by
  induction files with
  | nil => simp [insert]
  | cons first rest ih =>
    obtain ⟨own, others⟩ := List.forall_mem_cons.mp apart
    rw [insert]
    split_ifs with same
    · simp [own same.symm]
    · simp
    · simp only [List.mem_cons, ih others]
      tauto

theorem mem_foldl_insert_iff {all files : List SourceFile}
    (apart : ∀ one ∈ files ++ all, ∀ two ∈ files ++ all,
      one.path.parts = two.path.parts → one = two) :
    file ∈ all.foldl (fun files added => insert added files) files ↔ file ∈ files ∨ file ∈ all := by
  induction all generalizing files with
  | nil => simp
  | cons added rest ih =>
    have within {one : SourceFile} (member : one ∈ insert added files ++ rest) :
        one ∈ files ++ added :: rest := by
      rcases List.mem_append.mp member with held | later
      · rcases mem_insert held with rfl | held <;> simp [*]
      · simp [later]
    have own : file ∈ insert added files ↔ file = added ∨ file ∈ files :=
      mem_insert_iff fun held member same => apart held (by simp [member]) added (by simp) same
    rw [List.foldl_cons, ih fun one here two there => apart one (within here) two (within there),
      own, List.mem_cons]
    tauto

/-- What a run finds, or the path that stops it. -/
theorem discover_value (tree : IsTree project.system) (scan : ScanSettings) (paths : List Path) :
    (∃ path ∈ paths, project.find path = .error .tooLong) ∧
        (project.discover scan paths).value = .error .tooLong ∨
      (∀ path ∈ paths, project.find path ≠ .error .tooLong) ∧
        ∃ files, (project.discover scan paths).value = .ok files ∧ InPathOrder files ∧
          ∀ file, file ∈ files ↔ ∃ path ∈ paths, project.StandsFor scan path file := by
  rcases project.expandAll_cases scan paths with ⟨long, refused⟩ | ⟨short, all, expanded, members⟩
  · exact .inl ⟨long, by simp [discover, refused, Except.map]⟩
  · have apart : ∀ one ∈ [] ++ all, ∀ two ∈ [] ++ all,
        one.path.parts = two.path.parts → one = two := by
      intro one here two there same
      obtain ⟨first, -, found⟩ := (members one).mp here
      obtain ⟨second, -, again⟩ := (members two).mp there
      exact eq_of_parts tree found again same
    have value : (project.discover scan paths).value =
        .ok (all.foldl (fun files added => insert added files) []) := by
      simp [discover, expanded, Except.map]
    refine .inr ⟨short, _, value, project.inPathOrder_discover scan value, fun file => ?_⟩
    rw [mem_foldl_insert_iff apart, ← members]
    simp

/-! ### Other listings -/

section Relisted

variable (tree : IsTree project.system) (located : other.location = project.location)
  (relisted : Relisted project.root other.root)

include tree located relisted

theorem standsFor_of_relisted (stands : project.StandsFor scan path file) :
    other.StandsFor scan path file := by
  have same := find_relisted tree located relisted path
  rcases stands with ⟨named, found⟩ | ⟨entries, found, folders, name, place, leads, wanted⟩
  · rw [found] at same
    generalize result : other.find path = reached at same
    cases same with
    | found alike => exact .inl ⟨named, by rw [result, alike.eq_file]⟩
  · rw [found] at same
    generalize result : other.find path = reached at same
    cases same with
    | found alike =>
      obtain ⟨others, rfl⟩ := alike.exists_folder
      obtain ⟨last, further, alikeFile⟩ := alike.leadsTo leads
      obtain rfl := alikeFile.eq_file
      exact .inr ⟨others, result, folders, name, place, further, wanted⟩

theorem standsFor_iff_of_relisted :
    project.StandsFor scan path file ↔ other.StandsFor scan path file :=
  ⟨standsFor_of_relisted tree located relisted, standsFor_of_relisted
    ((relisted_system located relisted).isTree tree) located.symm relisted.symm⟩

theorem find_eq_tooLong_of_relisted (long : project.find path = .error .tooLong) :
    other.find path = .error .tooLong := by
  have same := find_relisted tree located relisted path
  rw [long] at same
  generalize other.find path = reached at same
  cases same
  rfl

end Relisted

/-- The path of a file comes before that of another one. -/
def IsEarlier (file later : SourceFile) : Prop := file.path.parts < later.path.parts

instance : Std.Irrefl IsEarlier := ⟨fun file => lt_irrefl file.path.parts⟩

instance : Std.Antisymm IsEarlier := ⟨fun _ _ before after => absurd before after.asymm⟩

/-- Files in order are told by which they are. -/
theorem InPathOrder.eq_of_mem_iff {files others : List SourceFile} (rising : InPathOrder files)
    (alsoRising : InPathOrder others) (same : ∀ file, file ∈ files ↔ file ∈ others) :
    files = others := by
  have first : files.Pairwise IsEarlier := rising
  have second : others.Pairwise IsEarlier := alsoRising
  exact first.eq_of_mem_iff second same

/-- For any paths, wherever they start, either one of them is too long to be looked up, and nothing
is found, or what is found are the files that the paths stand for, in strictly rising order of their
paths. It does not matter in which order and how often the paths are given and in which order
folders list their entries. -/
theorem discover_cases (tree : IsTree project.system) (scan : ScanSettings) (paths : List Path) :
    ((∃ path ∈ paths, project.find path = .error .tooLong) →
      (project.discover scan paths).value = .error .tooLong) ∧
    ((∀ path ∈ paths, project.find path ≠ .error .tooLong) →
      ∃ files, (project.discover scan paths).value = .ok files ∧
        files.Pairwise (fun file later => file.path.parts < later.path.parts) ∧
        ∀ file, file ∈ files ↔ ∃ path ∈ paths, project.StandsFor scan path file) ∧
    ∀ (other : Project) (others : List Path), other.location = project.location →
      Relisted project.root other.root → (∀ path, path ∈ others ↔ path ∈ paths) →
      (other.discover scan others).value = (project.discover scan paths).value := by
  have known := project.discover_value tree scan paths
  refine ⟨fun ⟨path, member, long⟩ => ?_, fun short => ?_,
    fun other others located relisted same => ?_⟩
  · rcases known with ⟨-, refused⟩ | ⟨short, -⟩
    · exact refused
    · exact absurd long (short path member)
  · rcases known with ⟨⟨path, member, long⟩, -⟩ | ⟨-, files, found, ordered, members⟩
    · exact absurd long (short path member)
    · exact ⟨files, found, ordered, members⟩
  · have otherTree := (relisted_system located relisted).isTree tree
    rcases known with ⟨⟨path, member, long⟩, refused⟩ | ⟨short, files, found, ordered, members⟩ <;>
      rcases other.discover_value otherTree scan others with
        ⟨⟨path', member', long'⟩, refused'⟩ | ⟨short', files', found', ordered', members'⟩
    · rw [refused, refused']
    · exact absurd (find_eq_tooLong_of_relisted tree located relisted long)
        (short' path ((same path).mpr member))
    · exact absurd (find_eq_tooLong_of_relisted otherTree located.symm relisted.symm long')
        (short path' ((same path').mp member'))
    · rw [found, found', ordered'.eq_of_mem_iff ordered fun file => ?_]
      simp only [members, members', same, standsFor_iff_of_relisted tree located relisted]

/-- A folder given twice, by itself and as part of another one, and a file of it that is named
though its extension is not scanned; files of a project that does not lie at the top, named from
the topmost folder on and by way of the folder above. -/
theorem discover_cases_overlapping :
    let tsx : FileContent := { bytes := [1] }
    let ts : FileContent := { bytes := [2] }
    let inside : Entry.Entries :=
      [("util.ts", .file ts), ("App.TSX", .file tsx), (".git", .folder [("a.tsx", .file tsx)])]
    let project : Project :=
      { root := .folder [("src", .folder inside), ("a.jsx", .file tsx)],
        location := ["home", "app"] }
    let other : Project :=
      { root := .folder [("a.jsx", .file tsx), ("src", .folder inside)],
        location := ["home", "app"] }
    let up : Path := ⟨"", ["..", "app", "a.jsx"]⟩
    let absolute : Path := ⟨"/", ["home", "app", "src", "util.ts"]⟩
    let paths : List Path :=
      [⟨"", ["src"]⟩, ⟨"", ["src", "util.ts"]⟩, absolute, ⟨"", []⟩, up, ⟨"", ["src"]⟩]
    let others : List Path := [up, absolute, ⟨"", []⟩, ⟨"", ["src"]⟩, ⟨"", ["src", "util.ts"]⟩]
    let files : List SourceFile := [⟨up, tsx⟩, ⟨absolute, ts⟩, ⟨⟨"", ["a.jsx"]⟩, tsx⟩,
      ⟨⟨"", ["src", "App.TSX"]⟩, tsx⟩, ⟨⟨"", ["src", "util.ts"]⟩, ts⟩]
    IsTree project.system ∧ Relisted project.root other.root ∧
      (project.discover {} paths).value = .ok files ∧
      (other.discover {} others).value = .ok files := by
  intro tsx ts inside project other up absolute paths others files
  have single : IsTree (.folder [("a.tsx", .file tsx)]) :=
    .folder (by decide) (by decide) (by simpa using .file tsx)
  have below : IsTree (.folder inside) := by
    refine .folder (by decide) (by decide) ?_
    simpa [inside] using ⟨.file ts, .file tsx, single⟩
  have root : IsTree project.root :=
    .folder (by decide) (by decide) (by simpa using ⟨below, .file tsx⟩)
  have app : IsTree (.folder [("app", project.root)]) :=
    .folder (by decide) (by decide) (by simpa using root)
  have tree : IsTree project.system := .folder (by decide) (by decide) (by simpa using app)
  have relisted : Relisted project.root other.root := .listing (.swap _ _ _)
  have found : (project.discover {} paths).value = .ok files := by
    dsimp only [project, inside, paths, up, absolute, files, tsx, ts]
    rfl
  obtain ⟨-, -, again⟩ := discover_cases tree {} paths
  have same : ∀ path, path ∈ others ↔ path ∈ paths := by
    intro path
    simp only [others, paths, List.mem_cons, List.not_mem_nil]
    tauto
  exact ⟨tree, relisted, found, (again other others rfl relisted same).trans found⟩

/-- A name that is longer than a file system allows stops the whole, though nothing has it. -/
theorem discover_of_long_name :
    let name := String.ofList (List.replicate 256 'a')
    let project : Project := { root := .folder [("a.tsx", .file {})] }
    (project.discover {} [⟨"", []⟩, ⟨"", [name]⟩]).value = .error .tooLong := by
  intro name project
  have noNull : Path.hasNull ⟨"", [name]⟩ = false := by
    rw [Path.hasNull, List.any_cons, String.toList_ofList, List.any_replicate]
    decide
  have refused : project.find ⟨"", [name]⟩ = .error .tooLong :=
    find_of_isLongName (by decide +kernel) noNull (by decide +kernel) (by decide +kernel)
      (by decide +kernel)
  have tree : IsTree project.system := .folder (by simp) (by decide) (by simpa using .file {})
  rcases project.discover_value tree {} [⟨"", []⟩, ⟨"", [name]⟩] with ⟨-, stopped⟩ | ⟨short, -⟩
  · exact stopped
  · exact absurd refused (short _ (List.mem_cons_of_mem _ List.mem_cons_self))

end Project

end MarkupLint
