import MarkupLint.Proofs.Layers
import MarkupLint.Proofs.ListsWithin
import MarkupLint.Proofs.PlainValue

/-!
Marks of lists. A mark in front of a list of a file says how the list is laid over another, and is
taken off when it is; the value of a variable is no layer and stands as it is written. Main
statement: if marks stand nowhere but in front and every list that a mark opens is laid over a
list, then a list of the configuration that a mark opens is one that a variable holds.
-/
namespace MarkupLint

namespace Value

/-- A text that means something in front of a list. -/
def isMark : Value → Bool
  | .scalar (.str s) => s == appendMark || s == replaceMark
  | _ => false

def opensWithMark (items : List Value) : Bool :=
  items.head?.any isMark

def marksStandFirst (items : List Value) : Bool :=
  items.tail.all fun item => !item.isMark

theorem Harmless.isMark_eq {f : Value → Value} (harmless : Harmless f) (v : Value) :
    (f v).isMark = v.isMark := by
  have scalar := harmless.scalar v
  cases v with
  | scalar s => rw [(scalar s).mpr rfl]
  | _ =>
    cases changed : f _ with
    | scalar s => cases (scalar s).mp changed
    | _ => rfl

theorem Harmless.opensWithMark_map {f : Value → Value} (harmless : Harmless f)
    (items : List Value) : opensWithMark (items.map f) = opensWithMark items := by
  cases items with
  | nil => rfl
  | cons item rest => exact harmless.isMark_eq item

theorem isStable_opensWithMark : IsStable fun items => opensWithMark items = false :=
  fun _ items harmless unopened => (harmless.opensWithMark_map items).trans unopened

theorem isStable_marksStandFirst : IsStable fun items => marksStandFirst items = true := by
  intro f items harmless first
  rw [marksStandFirst, List.all_eq_true] at first ⊢
  rw [← List.map_tail, List.forall_mem_map]
  intro item member
  rw [harmless.isMark_eq]
  exact first item member

/-! ### Laying -/

theorem opensWithMark_appendNew {base items : List Value} (below : opensWithMark base = false)
    (plain : ∀ item ∈ items, item.isMark = false) :
    opensWithMark (appendNew base items) = false := by
  unfold appendNew
  induction items generalizing base with
  | nil => exact below
  | cons item rest ih =>
    obtain ⟨own, others⟩ := List.forall_mem_cons.mp plain
    rw [List.foldl_cons]
    apply ih _ others
    split
    next => exact below
    next =>
      cases base with
      | nil => exact own
      | cons first more => exact below

/-- A list that is laid over another loses its mark. -/
theorem opensWithMark_mergeItems {base items : List Value} (below : opensWithMark base = false)
    (first : marksStandFirst items = true) : opensWithMark (mergeItems base items) = false := by
  unfold mergeItems
  split
  next mark rest =>
    have plain : ∀ item ∈ rest, item.isMark = false := by
      intro item member
      exact (Bool.not_eq_true' _).mp (List.all_eq_true.mp first item member)
    split
    next => exact opensWithMark_appendNew below plain
    next noAppend =>
      split
      next =>
        cases rest with
        | nil => rfl
        | cons item more => exact plain item (.head more)
      next noReplace => simp [opensWithMark, isMark, noAppend, noReplace]
  next noText =>
    cases items with
    | nil => rfl
    | cons item rest =>
      cases item with
      | scalar s =>
        cases s with
        | str mark => exact absurd rfl (noText mark rest)
        | _ => rfl
      | _ => rfl

mutual

/-- Whether every list of an incoming value that a mark opens is laid over a list. -/
def marksMeet (current : Option Value) : Value → Bool
  | .map label incoming =>
      match current with
      | some (.map _ base) => entryMarksMeet base incoming
      | _ => (Value.map label incoming).listsIn.all fun items => !opensWithMark items
  | .list _ items =>
      match current with
      | some (.list _ _) => true
      | _ => !opensWithMark items
  | _ => true

/-- As `marksMeet`, for a mapping that is laid over another, key by key. -/
def entryMarksMeet (base : Entries) : List (Scalar × Value) → Bool
  | [] => true
  | (key, incoming) :: rest =>
      marksMeet (Entries.get? base key) incoming &&
        entryMarksMeet (Entries.set base key (mergeOver (Entries.get? base key) incoming)) rest

end

/-- No list that is reached through mappings opens with a mark. -/
abbrev Unmarked : Value → Prop := EachList fun items => opensWithMark items = false

abbrev MarksFirst : Value → Prop := EachList fun items => marksStandFirst items = true

theorem unmarked_of_all {value : Value}
    (all : (value.listsIn.all fun items => !opensWithMark items) = true) : Unmarked value := by
  intro items member
  exact (Bool.not_eq_true' _).mp (List.all_eq_true.mp all items member)

mutual

theorem unmarked_mergeOver (current : Option Value) (below : ∀ value ∈ current, Unmarked value) :
    (incoming : Value) → MarksFirst incoming → marksMeet current incoming = true →
      Unmarked (mergeOver current incoming)
  | .map label incoming, first, meet => by
    rcases current with _ | own
    · exact unmarked_of_all meet
    · cases own with
      | map own base => exact unmarked_mergeEntries base (below _ rfl) label incoming first meet
      | _ => exact unmarked_of_all meet
  | .list label items, first, meet => by
    have verbatim (meet : (!opensWithMark items) = true) : Unmarked (.list label items) :=
      eachList_list_iff.mpr ((Bool.not_eq_true' _).mp meet)
    rcases current with _ | own
    · exact verbatim meet
    · cases own with
      | list own base =>
        exact eachList_list_iff.mpr (opensWithMark_mergeItems
          (eachList_list_iff.mp (below _ rfl)) (eachList_list_iff.mp first))
      | _ => exact verbatim meet
  | .scalar _, _, _ => nofun
  | .pair _ _ _, _, _ => nofun
  | .set _ _, _, _ => nofun
  | .again _ _, _, _ => nofun

theorem unmarked_mergeEntries (base : Entries) {own : Option Label}
    (below : Unmarked (.map own base)) (label : Option Label) :
    (incoming : List (Scalar × Value)) → MarksFirst (.map label incoming) →
      entryMarksMeet base incoming = true → Unmarked (.map none (mergeEntries base incoming))
  | [], _, _ => below
  | (key, value) :: rest, first, meet => by
    rw [entryMarksMeet, Bool.and_eq_true] at meet
    rw [MarksFirst, eachList_map_iff, List.forall_mem_cons] at first
    rw [mergeEntries]
    have held := unmarked_mergeOver (base.get? key)
      (fun value found => below.of_get? found) value first.1 meet.1
    exact unmarked_mergeEntries _ (below.set held) label rest
      (eachList_map_iff.mpr first.2) meet.2

end

end Value

namespace Config

open MarkupLint.Value

/-- Whether every list of a layer that a mark opens is laid over a list. -/
def marksMeet (base : Entries) (layer : Value) : Bool :=
  match ((Value.ofEntries base).unfoldAlong layer).entries?,
    layer.unfoldAlong (.ofEntries base) with
  | some entries, .map _ incoming => entryMarksMeet entries incoming
  | _, _ => true

theorem mergeLayer_cases {base merged : Entries} {layer : Value}
    (done : mergeLayer base layer = .ok merged) :
    merged = base ∨ ∃ label incoming, layer = .map label incoming ∧
      merged = mergeEntries base incoming := by
  unfold mergeLayer at done
  split at done
  next =>
    split at done
    next label incoming _ =>
      cases done
      exact .inr ⟨label, incoming, rfl, rfl⟩
    next => cases done
  next =>
    cases done
    exact .inl rfl

theorem unmarked_lay {base merged : Entries} {layer : Value} (below : Unmarked (.ofEntries base))
    (first : MarksFirst layer) (meet : marksMeet base layer = true)
    (laid : lay base layer = .ok merged) : Unmarked (.ofEntries merged) := by
  obtain ⟨own, under, merge⟩ := mergeLayer_of_lay laid
  have lower : Unmarked (.map none own) :=
    under ▸ below.unfoldAlong isStable_opensWithMark layer
  have upper := first.unfoldAlong isStable_marksStandFirst (.ofEntries base)
  rcases mergeLayer_cases merge with rfl | ⟨label, incoming, shape, rfl⟩
  · exact lower
  · rw [marksMeet, under, shape] at meet
    rw [shape] at upper
    exact unmarked_mergeEntries own lower label incoming upper meet

theorem unmarked_bundled : Unmarked (.ofEntries bundled) :=
  unmarked_of_all (by decide +kernel)

/-! ### Variables -/

/-- A list that the value of a variable holds, as it is written there. -/
def IsHeld (environment : List (String × String)) (items : List Value) : Prop :=
  ∃ name text path value, (name, text) ∈ environment ∧ Override.path? name = some (.ok path) ∧
    Override.coerce text = .ok value ∧ items ∈ value.listsIn

/-- A list that a variable holds has no labels, so nothing that comes later changes its items. -/
theorem isStable_isHeld (environment : List (String × String)) :
    IsStable fun items => opensWithMark items = true → IsHeld environment items := by
  intro f items harmless held opens
  rw [harmless.opensWithMark_map] at opens
  obtain ⟨name, text, path, value, member, named, read, inside⟩ := held opens
  have plain : labelsOfItems items = [] := by
    have mentioned := labels_subset_of_mem_listsIn value inside
    rw [Override.labels_coerce read] at mentioned
    exact List.subset_nil.mp mentioned
  rw [harmless.map_eq_self plain]
  exact ⟨name, text, path, value, member, named, read, inside⟩

/-- If the marks of all files stand in front of their lists and every list that a mark opens is
laid over a list, then a list of the configuration that a mark opens is one that a variable
holds. -/
theorem isHeld_of_opensWithMark {source : ConfigSource} {check : Bool} {final : Entries}
    (loaded : (load source check).value = .ok final)
    (first : ∀ file ∈ numbered source.files, ∀ layer, layerOf source.folder file = .ok layer →
      MarksFirst layer)
    (meet : ∀ below file layer, Meets source.folder bundled (numbered source.files) below file →
      layerOf source.folder file = .ok layer → marksMeet below layer = true)
    {items : List Value} (member : items ∈ (Value.ofEntries final).listsIn)
    (opens : opensWithMark items = true) : IsHeld source.environment items := by
  obtain ⟨merged, written, files, settings, rfl⟩ := exists_of_load_eq_ok loaded
  have unmarked : Unmarked (.ofEntries merged) := by
    refine mergeFiles_invariant (p := fun base => Unmarked (.ofEntries base)) unmarked_bundled ?_
      files
    intro below file next met held done
    obtain ⟨layer, read, laid⟩ := exists_of_bind_eq_ok done
    exact unmarked_lay held (first file met.mem layer read) (meet below file layer met read) laid
  let own (items : List Value) : Prop :=
    opensWithMark items = true → IsHeld source.environment items
  have start : EachList own (.ofEntries merged) := by
    intro items inside opens
    rw [unmarked items inside] at opens
    cases opens
  have each : EachList own (.ofEntries written) := by
    refine overrideAll_invariant (p := fun base => EachList own (.ofEntries base)) start ?_ settings
    intro setting among below next held done
    rcases override_cases done with ⟨-, rfl⟩ | ⟨path, value, named, read, done⟩
    · exact held
    · have holds : EachList own value := fun items inside _ =>
        ⟨setting.1, setting.2, path, value, (mem_overrides.mp among).1, named, read, inside⟩
      exact Override.eachList_set (isStable_isHeld source.environment) held holds done
  have shown : EachList own (.ofEntries (writtenOut written)) := by
    have whole := each.unfoldTo (isStable_isHeld source.environment) levels
    unfold writtenOut
    cases out : (Value.ofEntries written).unfoldTo levels with
    | map label entries =>
      rw [out] at whole
      exact whole
    | _ => exact each
  exact shown items member opens

/-- A file that adds to a list, and a variable whose list opens with a mark. -/
theorem isHeld_of_opensWithMark_extensions :
    let file : String × FileContent :=
      ("a.yaml", { bytes := Utf8.encode "attributes:\n  ignore: ['+', a]\n" })
    let source : ConfigSource :=
      { files := [file], environment := [("TSXLINT_SCAN__EXTENSIONS", "[\"=\", \"x\"]")] }
    ∃ final items, (load source false).value = .ok final ∧
      (∀ file ∈ numbered source.files, ∀ layer, layerOf source.folder file = .ok layer →
        MarksFirst layer) ∧
      (∀ below file layer, Meets source.folder bundled (numbered source.files) below file →
        layerOf source.folder file = .ok layer → marksMeet below layer = true) ∧
      items ∈ (Value.ofEntries final).listsIn ∧ opensWithMark items = true ∧
      IsHeld source.environment items := by
  intro file source
  have fits : (layerOf source.folder (0, file)).toOption.all (fun layer =>
      (layer.listsIn.all marksStandFirst) && marksMeet bundled layer) = true := by decide +kernel
  have layers (layer : Value) (read : layerOf source.folder (0, file) = .ok layer) :
      MarksFirst layer ∧ marksMeet bundled layer = true := by
    rw [read] at fits
    obtain ⟨first, meet⟩ := (Bool.and_eq_true _ _).mp fits
    exact ⟨List.all_eq_true.mp first, meet⟩
  have first : ∀ file ∈ numbered source.files, ∀ layer,
      layerOf source.folder file = .ok layer → MarksFirst layer := by
    intro other among layer read
    rw [List.mem_singleton.mp among] at read
    exact (layers layer read).1
  have meet : ∀ below file layer, Meets source.folder bundled (numbered source.files) below file →
      layerOf source.folder file = .ok layer → marksMeet below layer = true := by
    intro below other layer met read
    cases met with
    | first => exact (layers layer read).2
    | later merged more => cases more
  let facts (_ final : Entries) : Bool := (Value.ofEntries final).listsIn.any opensWithMark
  have sorted : overrides source.environment = source.environment := overrides_singleton rfl
  obtain ⟨merged, final, -, loaded, opened⟩ :=
    exists_load_of_any (p := facts) sorted (by decide +kernel)
  obtain ⟨items, member, opens⟩ := List.any_eq_true.mp opened
  exact ⟨final, items, loaded, first, meet, member, opens,
    isHeld_of_opensWithMark loaded first meet member opens⟩

/-- A mark in front of the list of a variable is in the configuration, though the list is laid over
none and no file is there. -/
theorem opensWithMark_of_variable :
    let source : ConfigSource :=
      { environment := [("TSXLINT_EXTRA", "[\"+\", \"a\"]")] }
    (∀ name text value, (name, text) ∈ source.environment → Override.coerce text = .ok value →
      MarksFirst value) ∧
    ∃ final, (load source false).value = .ok final ∧
      ∃ items ∈ (Value.ofEntries final).listsIn, opensWithMark items = true := by
  intro source
  have fits : (Override.coerce "[\"+\", \"a\"]").toOption.all
      (fun value => value.listsIn.all marksStandFirst) = true := by decide +kernel
  refine ⟨fun name text value among read => ?_, ?_⟩
  · cases List.mem_singleton.mp among
    rw [read] at fits
    exact List.all_eq_true.mp fits
  · let facts (_ final : Entries) : Bool := (Value.ofEntries final).listsIn.any opensWithMark
    have sorted : overrides source.environment = source.environment := overrides_singleton rfl
    obtain ⟨merged, final, -, loaded, opened⟩ :=
      exists_load_of_any (p := facts) sorted (by decide +kernel)
    exact ⟨final, loaded, List.any_eq_true.mp opened⟩

/-- A list of a file that meets no list stays as it is written, with its mark in front; no variable
is there to hold it. -/
theorem opensWithMark_of_unmet :
    let file : String × FileContent := ("a.yaml", { bytes := Utf8.encode "extra: ['+', a]\n" })
    let source : ConfigSource := { files := [file] }
    (∀ file ∈ numbered source.files, ∀ layer, layerOf source.folder file = .ok layer →
      MarksFirst layer) ∧
    ∃ final, (load source false).value = .ok final ∧
      ∃ items ∈ (Value.ofEntries final).listsIn, opensWithMark items = true ∧
        ¬ IsHeld source.environment items := by
  intro file source
  have fits : (layerOf source.folder (0, file)).toOption.all
      (fun layer => layer.listsIn.all marksStandFirst) = true := by decide +kernel
  refine ⟨fun other among layer read => ?_, ?_⟩
  · rw [List.mem_singleton.mp among] at read
    rw [read] at fits
    exact List.all_eq_true.mp fits
  · let facts (_ final : Entries) : Bool := (Value.ofEntries final).listsIn.any opensWithMark
    have sorted : overrides source.environment = source.environment := by
      rw [overrides, List.filter_nil, List.mergeSort_nil]
    obtain ⟨merged, final, -, loaded, opened⟩ :=
      exists_load_of_any (p := facts) sorted (by decide +kernel)
    obtain ⟨items, member, opens⟩ := List.any_eq_true.mp opened
    refine ⟨final, loaded, items, member, opens, ?_⟩
    rintro ⟨name, text, path, value, among, -⟩
    exact List.not_mem_nil among

end Config

end MarkupLint
