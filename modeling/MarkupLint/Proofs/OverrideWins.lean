import MarkupLint.Proofs.OverrideSet
import MarkupLint.Proofs.Pieces
import MarkupLint.Proofs.PlainValue

/-!
A variable wins over the files. The path of a variable is a way (`Override.Leads`) when its keys
are spelled as they are meant and the mappings it goes through occur once; what is written before
and after at paths apart from it leaves the way alone, and so does writing the result out. Main
statement: the value of the variable is found at its path in the configuration that is loaded.
-/
namespace MarkupLint

namespace Override

open MarkupLint.Value

variable {way : List Label} {entries : Entries} {path : List String} {value : Value}

/-! ### Where a way begins -/

/-- The labels of the mappings that a path goes through. -/
def labelsOnWay : Entries → List String → List Label
  | entries, part :: next :: rest =>
      match entries.field? part with
      | some (.map label child) => label.toList ++ labelsOnWay child (next :: rest)
      | _ => []
  | _, _ => []

theorem exists_split_of_get? {part : String} (found : entries.get? (.str part) = some value) :
    ∃ front back, entries = front ++ (.str part, value) :: back ∧
      ∀ entry ∈ front, entry.1 ≠ .str part := by
  rw [Entries.get?, Option.map_eq_some_iff] at found
  obtain ⟨entry, there, rfl⟩ := found
  obtain ⟨same, front, back, split, first⟩ := List.find?_eq_some_iff_append.mp there
  refine ⟨front, back, ?_, ?_⟩
  · rw [split, ← (Scalar.same_str_iff _ _).mp same]
  · intro other member equal
    have differs := first other member
    rw [(Scalar.same_str_iff _ _).mpr equal] at differs
    cases differs

theorem labelsOnWay_subset (entries : Entries) (path : List String) :
    labelsOnWay entries path ⊆ labelsOfEntries entries := by
  fun_induction labelsOnWay entries path with
  | case1 entries part next rest label child found ih =>
    intro l member
    apply labels_subset_of_get? found
    rw [labels, List.mem_append]
    exact (List.mem_append.mp member).imp_right (ih ·)
  | case2 => exact List.nil_subset _
  | case3 => exact List.nil_subset _

theorem labelsOnWay_cons_cons {part next : String} {rest : List String} {label : Option Label}
    {child : Entries} (found : entries.get? (.str part) = some (.map label child)) :
    labelsOnWay entries (part :: next :: rest) =
      label.toList ++ labelsOnWay child (next :: rest) := by
  rw [labelsOnWay, Entries.field?, found]

/-- A label is mentioned at a place or beside it. -/
theorem count_labelsOfEntries (front back : Entries) (key : Scalar) (held : Value) (l : Label) :
    (labelsOfEntries (front ++ (key, held) :: back)).count l =
      (labelsOfEntries (front ++ back)).count l + held.labels.count l := by
  rw [labelsOfEntries_append, labelsOfEntries_append, labelsOfEntries, List.count_append,
    List.count_append, List.count_append]
  omega

theorem count_le_of_get? {key : Scalar} {held : Value} (own : entries.get? key = some held)
    (l : Label) : held.labels.count l ≤ (labelsOfEntries entries).count l := by
  obtain ⟨key, member, -⟩ := mem_of_get? own
  obtain ⟨front, back, rfl⟩ := List.append_of_mem member
  rw [count_labelsOfEntries]
  exact Nat.le_add_left _ _

/-- What is on the way behind a key is in the value held there. -/
theorem labelsOnWay_subset_of_get? {part : String} {held : Value}
    (own : entries.get? (.str part) = some held) (rest : List String) :
    labelsOnWay entries (part :: rest) ⊆ held.labels := by
  cases rest with
  | nil => exact List.nil_subset _
  | cons next rest =>
    cases held with
    | map inner child =>
      rw [labelsOnWay_cons_cons own, labels]
      intro l member
      exact List.mem_append.mpr ((List.mem_append.mp member).imp_right (labelsOnWay_subset _ _ ·))
    | _ =>
      rw [labelsOnWay, Entries.field?, own]
      exact List.nil_subset _

/-- Labels of a way are mentioned once, by the mappings that the path goes through. -/
def OnWayOnce (way : List Label) (entries : Entries) (path : List String) : Prop :=
  ∀ l ∈ way, l ∈ labelsOfEntries entries →
    l ∈ labelsOnWay entries path ∧ (labelsOfEntries entries).count l ≤ 1

section Once

variable {part next : String} {rest : List String} {inner : Option Label} {child : Entries}

/-- A label that is on the way is counted in the value held, so it does not stand beside it. -/
theorem OnWayOnce.holds (once : OnWayOnce way entries (part :: rest)) {held : Value}
    (own : entries.get? (.str part) = some held) (spelled : resolveKey entries part = part) :
    Holds way part held entries := by
  obtain ⟨front, back, split, first⟩ := exists_split_of_get? own
  refine ⟨⟨front, back, split, first, fun l member beside => ?_⟩, spelled⟩
  have total := count_labelsOfEntries front back (.str part) held l
  rw [← split] at total
  have besides := List.one_le_count_iff.mpr beside
  have there : l ∈ labelsOfEntries entries := List.one_le_count_iff.mp (by omega)
  obtain ⟨walked, single⟩ := once l member there
  have within := List.one_le_count_iff.mpr (labelsOnWay_subset_of_get? own rest walked)
  omega

theorem OnWayOnce.not_mem_labels (once : OnWayOnce way entries [part]) {held : Value}
    (own : entries.get? (.str part) = some held) : ∀ l ∈ way, l ∉ held.labels :=
  fun l member mentioned =>
    List.not_mem_nil (once l member (labels_subset_of_get? own mentioned)).1

/-- A mapping that the path goes through is not inside itself. -/
theorem OnWayOnce.not_mem_child (once : OnWayOnce way entries (part :: next :: rest))
    (own : entries.get? (.str part) = some (.map inner child)) {l : Label} (labelled : l ∈ inner)
    (member : l ∈ way) : l ∉ labelsOfEntries child := by
  intro mentioned
  have listed := Option.mem_toList.mpr labelled
  have single :=
    (once l member (labels_subset_of_get? own (List.mem_append_left _ listed))).2
  have counted := count_le_of_get? own l
  rw [labels, List.count_append] at counted
  have here := List.one_le_count_iff.mpr listed
  have below := List.one_le_count_iff.mpr mentioned
  omega

theorem OnWayOnce.below (once : OnWayOnce way entries (part :: next :: rest))
    (own : entries.get? (.str part) = some (.map inner child)) :
    OnWayOnce way child (next :: rest) := by
  intro l member mentioned
  obtain ⟨passed, single⟩ :=
    once l member (labels_subset_of_get? own (List.mem_append_right _ mentioned))
  rw [labelsOnWay_cons_cons own, List.mem_append, Option.mem_toList] at passed
  rcases passed with labelled | passed
  · exact absurd mentioned (once.not_mem_child own labelled member)
  · have counted := count_le_of_get? own l
    rw [labels, List.count_append] at counted
    exact ⟨passed, by omega⟩

end Once

/-- A path whose keys are spelled as they are meant, and whose mappings occur once, is a way. -/
theorem leads_of_onWayOnce (path : List String) (nonempty : path ≠ [])
    (meant : resolvePath entries path = path) {label : Option Label}
    (found : (Value.map label entries).at? (path.map .str) = some value)
    (onWay : labelsOnWay entries path ⊆ way) (once : OnWayOnce way entries path) :
    Leads way entries path value := by
  induction path generalizing entries label with
  | nil => exact absurd rfl nonempty
  | cons part rest ih =>
    rw [resolvePath, List.cons.injEq] at meant
    obtain ⟨spelled, others⟩ := meant
    rw [List.map_cons, Value.at?, Option.bind_eq_some_iff] at found
    obtain ⟨held, own, found⟩ := found
    have field : entries.field? part = some held := own
    rw [spelled, field] at others
    have holds := once.holds own spelled
    cases rest with
    | nil =>
      have same : held = value := by
        cases held <;> exact Option.some.inj found
      subst same
      exact .last holds (once.not_mem_labels own)
    | cons next rest =>
      cases held with
      | map inner child =>
        rw [labelsOnWay_cons_cons own, List.append_subset] at onWay
        refine .next holds (fun l labelled => ?_)
          (ih (List.cons_ne_nil _ _) others found onWay.2 (once.below own))
        have member := onWay.1 (Option.mem_toList.mpr labelled)
        exact ⟨member, once.not_mem_child own labelled member⟩
      | _ => cases found

/-! ### What is left in the end -/

theorem at?_unfold_cons {key : Scalar} {held : Value} (own : entries.get? key = some held)
    {label : Option Label} (alone : ∀ l ∈ label, l ∉ labelsOfEntries entries) (depth : Nat)
    (rest : List Scalar) :
    ((Value.map label entries).unfold (depth + 1)).at? (key :: rest) =
      (held.unfold depth).at? rest := by
  have whole : held.labels ⊆ labelsOfEntries entries := labels_subset_of_get? own
  have same : Value.part (.map label entries) label held = held :=
    part_of_not_mem fun l labelled mentioned => alone l labelled (whole mentioned)
  have found := Entries.get?_map entries key fun value =>
    (Value.part (.map label entries) label value).unfold depth
  rw [own, Option.map_some, same] at found
  rw [unfold, Value.at?]
  exact congrArg (Option.bind · fun child => child.at? rest) found

/-- Writing a mapping out leaves a way in it as it is. -/
theorem Leads.at?_unfold (leads : Leads way entries path value) (plain : value.labels = [])
    (depth : Nat) {label : Option Label} (alone : ∀ l ∈ label, l ∉ labelsOfEntries entries) :
    ((Value.map label entries).unfold depth).at? (path.map .str) = some value := by
  induction leads generalizing depth label with
  | last holds own =>
    cases depth with
    | zero => exact (Leads.last holds own).at? label
    | succ depth =>
      rw [List.map_cons, at?_unfold_cons holds.get? alone, unfold_of_labels_eq_nil depth plain]
      exact Value.at?.eq_1 _
  | next holds single more ih =>
    cases depth with
    | zero => exact (Leads.next holds single more).at? label
    | succ depth =>
      rw [List.map_cons, at?_unfold_cons holds.get? alone]
      exact ih plain depth fun l labelled => (single l labelled).2

theorem Leads.at?_writtenOut (leads : Leads way entries path value) (plain : value.labels = []) :
    (Value.ofEntries (Config.writtenOut entries)).at? (path.map .str) = some value := by
  unfold Config.writtenOut Value.unfoldTo
  split
  next => exact leads.at?_unfold plain Config.levels nofun
  next => exact leads.at? none

end Override

namespace Config

open Override

/-- A path has parts, and they are in lower case. -/
theorem path?_spec {name : String} {path : List String} (named : path? name = some (.ok path)) :
    overridePrefix.toList.isPrefixOf name.toList = true ∧ path ≠ [] ∧
      ∀ part ∈ path, Text.lowered part = part := by
  unfold path? at named
  split at named
  next begins =>
    dsimp only at named
    split at named
    next => cases named
    next =>
      rw [← Except.ok.inj (Option.some.inj named)]
      have mark : "__" ≠ "" := by decide
      refine ⟨begins, mt List.map_eq_nil_iff.mp (Text.splitText_ne_nil mark _), ?_⟩
      intro part member
      obtain ⟨own, -, rfl⟩ := List.mem_map.mp member
      exact Text.lowered_lowered own
  next => cases named

/-- Settings at paths that are apart from a way leave the way alone, and the value at its end if
that has no labels. -/
theorem leads_overrideAll {way : List Label} {path : List String} {value : Value}
    {base written : Entries} (leads : Leads way base path value)
    (final : ∀ part ∈ path, Text.lowered part = part) {settings : List (String × String)}
    (others : ∀ v ∈ settings, ∀ other, path? v.1 = some (.ok other) → Apart path other)
    (done : (overrideAll base settings).value = .ok written) :
    ∃ shown, Leads way written path shown ∧ (value.labels = [] → shown = value) := by
  let kept (entries : Entries) : Prop :=
    ∃ shown, Leads way entries path shown ∧ (value.labels = [] → shown = value)
  have start : kept base := ⟨value, leads, fun _ => rfl⟩
  refine overrideAll_invariant start ?_ done
  rintro setting member below next ⟨shown, leads, same⟩ wrote
  rcases override_cases wrote with ⟨-, rfl⟩ | ⟨other, new, named, read, set⟩
  · exact ⟨shown, leads, same⟩
  · obtain ⟨-, -, lower⟩ := path?_spec named
    obtain ⟨shown', leads, same'⟩ := leads.set_other final lower (others setting member other named)
      (labels_coerce read) set
    refine ⟨shown', leads, fun plain => ?_⟩
    obtain rfl := same plain
    exact same' plain

/-- All overrides but one, in the order in which they are written, before it and behind it. -/
theorem exists_split_of_overrides {name text : String} {front back : List (String × String)}
    (begins : overridePrefix.toList.isPrefixOf name.toList = true) :
    ∃ before behind, overrides (front ++ (name, text) :: back) =
        before ++ (name, text) :: behind ∧ ∀ v ∈ before ++ behind, v ∈ front ++ back := by
  let isOverride (v : String × String) : Bool := overridePrefix.toList.isPrefixOf v.1.toList
  have member : (name, text) ∈ overrides (front ++ (name, text) :: back) :=
    mem_overrides.mpr ⟨List.mem_append_right _ (.head _), begins⟩
  obtain ⟨before, behind, split⟩ := List.append_of_mem member
  have sorted : (before ++ (name, text) :: behind).Perm
      (front.filter isOverride ++ (name, text) :: back.filter isOverride) := by
    have own : isOverride (name, text) = true := begins
    rw [← split, ← List.filter_cons_of_pos own, ← List.filter_append]
    exact List.mergeSort_perm _ _
  have rest : (before ++ behind).Perm (front.filter isOverride ++ back.filter isOverride) :=
    (List.perm_middle.symm.trans (sorted.trans List.perm_middle)).cons_inv
  refine ⟨before, behind, split, fun v inside => ?_⟩
  have kept := rest.mem_iff.mp inside
  rw [← List.filter_append] at kept
  exact (List.mem_filter.mp kept).1

/-- A variable wins over the files. -/
theorem at?_load_of_override {source : ConfigSource} {check : Bool} {merged final : Entries}
    {name text : String} {path : List String} {front back : List (String × String)}
    (files : (mergeFiles source.folder bundled (numbered source.files)).value = .ok merged)
    (loaded : (load source check).value = .ok final)
    (listed : source.environment = front ++ (name, text) :: back)
    (named : path? name = some (.ok path))
    (there : ((Value.ofEntries merged).at? (path.map .str)).isSome = true)
    (others : ∀ v ∈ front ++ back, ∀ other, path? v.1 = some (.ok other) → Apart path other)
    (meant : resolvePath merged path = path)
    (alone : ∀ l ∈ labelsOnWay merged path, (Value.labelsOfEntries merged).count l ≤ 1) :
    ∃ value, coerce text = .ok value ∧
      (Value.ofEntries final).at? (path.map .str) = some value := by
  obtain ⟨begins, nonempty, lower⟩ := path?_spec named
  obtain ⟨old, found⟩ := Option.isSome_iff_exists.mp there
  have leads : Leads (labelsOnWay merged path) merged path old :=
    leads_of_onWayOnce path nonempty meant found (List.Subset.refl _)
      fun l member _ => ⟨member, alone l member⟩
  obtain ⟨merged', written, files', settings, rfl⟩ := exists_of_load_eq_ok loaded
  rw [files] at files'
  cases files'
  obtain ⟨before, behind, split, known⟩ := exists_split_of_overrides begins
  rw [listed, split, overrideAll_value_append] at settings
  obtain ⟨below, wrote, settings⟩ := exists_of_bind_eq_ok settings
  rw [overrideAll_value_cons] at settings
  obtain ⟨next, set, settings⟩ := exists_of_bind_eq_ok settings
  obtain ⟨shown, leads, -⟩ := leads_overrideAll leads lower
    (fun v member => others v (known v (List.mem_append_left _ member))) wrote
  rcases override_cases set with ⟨none, -⟩ | ⟨own, value, named', read, set⟩
  · rw [named] at none
    cases none
  rw [named] at named'
  cases named'
  have plain := labels_coerce read
  obtain ⟨shown, leads, same⟩ := leads_overrideAll (leads.set_own plain set) lower
    (fun v member => others v (known v (List.mem_append_right _ member))) settings
  obtain rfl := same plain
  exact ⟨shown, read, leads.at?_writtenOut plain⟩

/-- A mapping of a file, with a container that occurs twice beside it, and a variable that writes
to that one. -/
theorem at?_load_of_override_beside_shared :
    let file : String × FileContent :=
      ("a.yaml", { bytes := Utf8.encode "one:\n x: 1\ntwo: &c\n y: 2\nten: *c\n" })
    let source : ConfigSource :=
      { files := [file], environment := [("TSXLINT_ONE__X", "5"), ("TSXLINT_TEN__Y", "6")] }
    ∃ merged final,
      (mergeFiles source.folder bundled (numbered source.files)).value = .ok merged ∧
      (load source false).value = .ok final ∧
      path? "TSXLINT_ONE__X" = some (.ok ["one", "x"]) ∧
      path? "TSXLINT_TEN__Y" = some (.ok ["ten", "y"]) ∧
      ((Value.ofEntries merged).at? [.str "one", .str "x"]).isSome = true ∧
      resolvePath merged ["one", "x"] = ["one", "x"] ∧
      (∀ l ∈ labelsOnWay merged ["one", "x"], (Value.labelsOfEntries merged).count l ≤ 1) ∧
      (Value.ofEntries final).at? [.str "one", .str "x"] = some (.int 5) := by
  intro file source
  have sorted : overrides source.environment = source.environment := by
    have begins : source.environment.filter
        (fun v => overridePrefix.toList.isPrefixOf v.1.toList) = source.environment := rfl
    rw [overrides, begins]
    exact List.mergeSort_of_pairwise (by decide +kernel)
  let facts (merged _ : Entries) : Bool :=
    ((Value.ofEntries merged).at? [.str "one", .str "x"]).isSome &&
      decide (resolvePath merged ["one", "x"] = ["one", "x"] ∧
        ∀ l ∈ labelsOnWay merged ["one", "x"], (Value.labelsOfEntries merged).count l ≤ 1)
  obtain ⟨merged, final, files, loaded, holds⟩ :=
    exists_load_of_any (p := facts) sorted (by decide +kernel)
  rw [Bool.and_eq_true, decide_eq_true_eq] at holds
  obtain ⟨there, meant, alone⟩ := holds
  have listed :
      source.environment = [] ++ ("TSXLINT_ONE__X", "5") :: [("TSXLINT_TEN__Y", "6")] := rfl
  have named : path? "TSXLINT_ONE__X" = some (.ok ["one", "x"]) := rfl
  have beside : path? "TSXLINT_TEN__Y" = some (.ok ["ten", "y"]) := rfl
  have apart : ∀ v ∈ [] ++ [("TSXLINT_TEN__Y", "6")], ∀ other, path? v.1 = some (.ok other) →
      Apart ["one", "x"] other := by
    rintro v member other own
    rw [List.mem_singleton.mp member, beside] at own
    cases own
    exact apart_of_ne ["x"] ["y"] (by decide)
  obtain ⟨value, read, found⟩ :=
    at?_load_of_override files loaded listed named there apart meant alone
  have whole : coerce "5" = .ok (.int 5) := rfl
  rw [whole] at read
  cases read
  exact ⟨merged, final, files, loaded, named, beside, there, meant, alone, found⟩

/-- Without its conditions a variable may lose: a file that spells a section in another way draws
the setting to its own section, and readers find what was there before. -/
theorem at?_load_of_two_spellings :
    let file : String × FileContent := ("a.yaml", { bytes := Utf8.encode "Scan:\n  x: 1\n" })
    let source : ConfigSource :=
      { files := [file], environment := [("TSXLINT_SCAN__MAX_CONCURRENCY", "8")] }
    path? "TSXLINT_SCAN__MAX_CONCURRENCY" = some (.ok ["scan", "max_concurrency"]) ∧
      coerce "8" = .ok (.int 8) ∧
      ∃ merged final,
        (mergeFiles source.folder bundled (numbered source.files)).value = .ok merged ∧
        (load source false).value = .ok final ∧
        ((Value.ofEntries merged).at? [.str "scan", .str "max_concurrency"]).isSome = true ∧
        (Value.ofEntries final).at? [.str "scan", .str "max_concurrency"] ≠ some (.int 8) := by
  intro file source
  refine ⟨rfl, rfl, ?_⟩
  let facts (merged final : Entries) : Bool :=
    ((Value.ofEntries merged).at? [.str "scan", .str "max_concurrency"]).isSome &&
      ((Value.ofEntries final).at? [.str "scan", .str "max_concurrency"]).any (·.same (.int 4))
  have sorted : overrides source.environment = source.environment := overrides_singleton rfl
  obtain ⟨merged, final, files, loaded, holds⟩ :=
    exists_load_of_any (p := facts) sorted (by decide +kernel)
  obtain ⟨there, four⟩ := (Bool.and_eq_true _ _).mp holds
  refine ⟨merged, final, files, loaded, there, fun eight => ?_⟩
  rw [eight] at four
  exact absurd four (by decide +kernel)

end Config

end MarkupLint
