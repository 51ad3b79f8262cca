import MarkupLint.Proofs.Keys
import MarkupLint.Proofs.Labels
import MarkupLint.Proofs.LowerCase

/-!
The way to a setting. A path leads from the root through mappings to a value (`Override.Leads`);
it is the only way there if the keys are spelled as they are looked for and the containers on the
way occur nowhere else. Main statements: a value that is set at the path is found there, and
setting a value at a path that is apart from it leaves it alone.
-/
namespace MarkupLint

namespace Override

open MarkupLint.Text MarkupLint.Value

/-! ### Spellings -/

/-- The spellings of a key among others. -/
def spellings (keys : List Scalar) (part : String) : List String :=
  keys.filterMap fun
    | .str key => if lowered key = part then some key else none
    | _ => none

theorem resolveKey_eq (entries : Entries) (part : String) :
    resolveKey entries part = ((spellings (entries.map (·.1)) part).getLast?).getD part := by
  rw [spellings, List.filterMap_map]
  rfl

theorem resolveKey_of_keys_eq {entries others : Entries}
    (same : entries.map (·.1) = others.map (·.1)) (part : String) :
    resolveKey entries part = resolveKey others part := by
  rw [resolveKey_eq, resolveKey_eq, same]

/-- The spelling that is meant for a key in lower case is one of its spellings. -/
theorem lowered_resolveKey (entries : Entries) {part : String} (final : lowered part = part) :
    lowered (resolveKey entries part) = part := by
  rw [resolveKey_eq]
  cases found : (spellings (entries.map (·.1)) part).getLast? with
  | none => exact final
  | some key =>
    have member := List.mem_of_getLast? found
    obtain ⟨own, -, spelled⟩ := List.mem_filterMap.mp member
    split at spelled
    next other =>
      split at spelled
      next same =>
        cases spelled
        exact same
      next => cases spelled
    next => cases spelled

/-- Setting another key does not change which spelling is meant. -/
theorem resolveKey_set (entries : Entries) {key part : String} (value : Value)
    (other : lowered key ≠ part) :
    resolveKey (entries.set (.str key) value) part = resolveKey entries part := by
  have keys := Entries.keys_set entries (.str key) value
  split at keys
  next =>
    rw [List.append_nil] at keys
    exact resolveKey_of_keys_eq keys part
  next =>
    have none : spellings [.str key] part = [] := by
      simp [spellings, other]
    rw [resolveKey_eq, resolveKey_eq, keys, spellings, List.filterMap_append]
    change (((spellings _ part) ++ spellings [.str key] part).getLast?).getD part = _
    rw [none, List.append_nil]

/-- The spelling that is meant for a key is still meant after the key has been set. -/
theorem resolveKey_set_self (entries : Entries) {part : String} (final : lowered part = part)
    (value : Value) :
    resolveKey (entries.set (.str (resolveKey entries part)) value) part =
      resolveKey entries part := by
  have keys := Entries.keys_set entries (.str (resolveKey entries part)) value
  split at keys
  next =>
    rw [List.append_nil] at keys
    exact resolveKey_of_keys_eq keys part
  next =>
    have own : spellings [.str (resolveKey entries part)] part = [resolveKey entries part] := by
      simp [spellings, lowered_resolveKey entries final]
    rw [resolveKey_eq, keys, spellings, List.filterMap_append]
    change ((spellings _ part ++ spellings [.str _] part).getLast?).getD part = _
    rw [own, List.getLast?_concat]
    rfl

/-- Setting the spelling of another key does not change what is found under this one. -/
theorem field?_set_other (entries : Entries) {part other : String} (final : lowered part = part)
    (final' : lowered other = other) (distinct : part ≠ other) (value : Value) :
    let set := entries.set (.str (resolveKey entries part)) value
    resolveKey set other = resolveKey entries other ∧
      set.field? (resolveKey set other) = entries.field? (resolveKey entries other) := by
  have spelled := lowered_resolveKey entries final
  have same := resolveKey_set entries value (spelled.symm ▸ distinct : _ ≠ other)
  refine ⟨same, ?_⟩
  have apart : resolveKey entries part ≠ resolveKey entries other := by
    intro equal
    rw [equal, lowered_resolveKey entries final'] at spelled
    exact distinct spelled.symm
  rw [same, Entries.field?, Entries.get?_set_str, if_neg apart, Entries.field?]

/-! ### One step of a way -/

/-- A mapping holds a value under the spelling that is meant for a key, and nothing else in it
mentions a label of the way. -/
structure Holds (way : List Label) (part : String) (held : Value) (entries : Entries) : Prop where
  split : ∃ front back, entries = front ++ (.str part, held) :: back ∧
    (∀ entry ∈ front, entry.1 ≠ .str part) ∧ ∀ l ∈ way, l ∉ labelsOfEntries (front ++ back)
  spelled : resolveKey entries part = part

variable {way : List Label} {part : String} {held : Value} {entries : Entries}

theorem find?_split {front back : Entries} (first : ∀ entry ∈ front, entry.1 ≠ .str part) :
    (front ++ (Scalar.str part, held) :: back).find? (fun entry => entry.1.same (.str part)) =
      some (.str part, held) := by
  have none : front.find? (fun entry => entry.1.same (.str part)) = none := by
    rw [List.find?_eq_none]
    intro entry member same
    exact first entry member ((Scalar.same_str_iff _ _).mp same)
  rw [List.find?_append, none, Option.none_or, List.find?_cons_of_pos]
  exact (Scalar.same_str_iff _ _).mpr rfl

theorem Holds.get? (holds : Holds way part held entries) :
    entries.get? (.str part) = some held := by
  obtain ⟨front, back, rfl, first, -⟩ := holds.split
  rw [Entries.get?, find?_split first]
  rfl

/-- An entry is set before a place or behind it. -/
theorem set_append (front back : Entries) (key : Scalar) (value : Value) :
    (front ++ back : Entries).set key value = front.set key value ++ back ∧
        (∃ entry ∈ front, entry.1.same key = true) ∨
      (front ++ back : Entries).set key value = front ++ Entries.set back key value ∧
        ∀ entry ∈ front, entry.1.same key = false := by
  induction front with
  | nil => exact .inr ⟨rfl, fun entry member => absurd member List.not_mem_nil⟩
  | cons entry rest ih =>
    rw [List.cons_append, Entries.set, Entries.set]
    cases own : entry.1.same key with
    | true => exact .inl ⟨rfl, entry, .head rest, own⟩
    | false =>
      rcases ih with ⟨done, other, member, same⟩ | ⟨done, none⟩
      · exact .inl ⟨congrArg (entry :: ·) done, other, .tail _ member, same⟩
      · exact .inr ⟨congrArg (entry :: ·) done, List.forall_mem_cons.mpr ⟨own, none⟩⟩

theorem Holds.set_own (holds : Holds way part held entries) (value : Value) :
    Holds way part value (entries.set (.str part) value) := by
  obtain ⟨front, back, rfl, first, off⟩ := holds.split
  have done : Entries.set (front ++ (.str part, held) :: back) (.str part) value =
      front ++ (.str part, value) :: back := by
    rcases set_append front ((.str part, held) :: back) (.str part) value with
      ⟨-, entry, member, same⟩ | ⟨done, -⟩
    · exact absurd ((Scalar.same_str_iff _ _).mp same) (first entry member)
    · rw [done, Entries.set, if_pos ((Scalar.same_str_iff _ _).mpr rfl)]
  rw [done]
  refine ⟨⟨front, back, rfl, first, off⟩, Eq.trans (resolveKey_of_keys_eq ?_ part) holds.spelled⟩
  simp only [List.map_append, List.map_cons]

/-- Setting another key is done beside a place. -/
theorem set_beside {front back : Entries} {key : Scalar} (value : Value)
    (first : ∀ entry ∈ front, entry.1 ≠ .str part) (other : key ≠ .str part)
    (apart : (Scalar.str part).same key = false) :
    ∃ before behind : Entries,
      Entries.set (front ++ (.str part, held) :: back) key value =
        before ++ (.str part, held) :: behind ∧
      (∀ entry ∈ before, entry.1 ≠ .str part) ∧
      ∀ l ∈ labelsOfEntries (before ++ behind),
        l ∈ labelsOfEntries (front ++ back) ∨ l ∈ value.labels := by
  rcases set_append front ((Scalar.str part, held) :: back) key value with ⟨done, -⟩ | ⟨done, -⟩
  · refine ⟨front.set key value, back, done, ?_, ?_⟩
    · intro entry member
      have inside : entry.1 ∈ (front.set key value).map (·.1) := List.mem_map_of_mem member
      have known : entry.1 ∈ front.map (·.1) ∨ entry.1 = key := by
        rw [Entries.keys_set, List.mem_append] at inside
        refine inside.imp_right fun added => ?_
        split at added
        · cases added
        · exact List.mem_singleton.mp added
      rcases known with old | rfl
      · obtain ⟨own, there, same⟩ := List.mem_map.mp old
        exact same ▸ first own there
      · exact other
    · intro l member
      rw [labelsOfEntries_append, List.mem_append] at member ⊢
      rcases member with before | behind
      · exact (labels_set before).imp_left .inl
      · exact .inl (.inr behind)
  · rw [Entries.set, apart, if_neg Bool.false_ne_true] at done
    refine ⟨front, Entries.set back key value, done, first, ?_⟩
    intro l member
    rw [labelsOfEntries_append, List.mem_append] at member ⊢
    rcases member with before | behind
    · exact .inl (.inl before)
    · exact (labels_set behind).imp_left .inr

theorem Holds.set_other (holds : Holds way part held entries) (final : lowered part = part)
    {key : String} (other : lowered key ≠ part) {value : Value}
    (fresh : ∀ l ∈ way, l ∉ value.labels) :
    Holds way part held (entries.set (.str key) value) := by
  have spelled := (resolveKey_set entries value other).trans holds.spelled
  obtain ⟨front, back, rfl, first, off⟩ := holds.split
  have distinct : Scalar.str key ≠ .str part := by
    rintro ⟨⟩
    exact other final
  have apart : (Scalar.str part).same (.str key) = false :=
    Bool.eq_false_iff.mpr fun same => distinct ((Scalar.str_same_iff _ _).mp same)
  obtain ⟨before, behind, done, keys, known⟩ := set_beside value first distinct apart
  refine ⟨⟨before, behind, done, keys, ?_⟩, spelled⟩
  intro l member mentioned
  rcases known l mentioned with old | new
  · exact off l member old
  · exact fresh l member new

/-- What a mapping holds under any other key mentions no label of the way. -/
theorem Holds.off (holds : Holds way part held entries) {key : Scalar} (other : key ≠ .str part)
    {value : Value} (found : entries.get? key = some value) : ∀ l ∈ way, l ∉ value.labels := by
  obtain ⟨front, back, rfl, -, off⟩ := holds.split
  obtain ⟨own, member, same⟩ := mem_of_get? found
  have beside : (own, value) ∈ front ++ back := by
    rw [List.mem_append, List.mem_cons] at member
    rw [List.mem_append]
    rcases member with before | itself | behind
    · exact .inl before
    · cases itself
      exact absurd ((Scalar.str_same_iff _ _).mp same) other
    · exact .inr behind
  exact fun l inWay mentioned => off l inWay (mem_labelsOfEntries.mpr ⟨_, beside, mentioned⟩)

/-- A replacement of containers off the way goes on below the key. -/
theorem Holds.replace (holds : Holds way part held entries) {swap : Value → Option Value}
    (fresh : ∀ u w, swap u = some w → ∀ l ∈ w.labels, l ∉ way) :
    Holds way part (replace swap held) (replaceEntries swap entries) := by
  have keys : (replaceEntries swap entries).map (·.1) = entries.map (·.1) := by
    rw [replaceEntries_eq_map, List.map_map]
    rfl
  have spelled := (resolveKey_of_keys_eq keys part).trans holds.spelled
  obtain ⟨front, back, rfl, first, off⟩ := holds.split
  refine ⟨⟨replaceEntries swap front, replaceEntries swap back, ?_, ?_, ?_⟩, spelled⟩
  · simp only [replaceEntries_eq_map, List.map_append, List.map_cons]
  · intro entry member
    rw [replaceEntries_eq_map] at member
    obtain ⟨own, there, rfl⟩ := List.mem_map.mp member
    exact first own there
  · have split : replaceEntries swap front ++ replaceEntries swap back =
        replaceEntries swap (front ++ back) := by
      simp only [replaceEntries_eq_map, List.map_append]
    rw [split]
    intro l member mentioned
    exact labels_replaceEntries (p := (· ∉ way)) (fun u w _ => fresh u w) (front ++ back)
      (fun l inside member => off l member inside) l mentioned member

/-- A replacement of a container that occurs below the key, and only there, and that changes
nothing there, changes nothing. -/
theorem Holds.replace_eq_self (holds : Holds way part held entries) {swap : Value → Option Value}
    {label : Label} (only : ∀ u w, swap u = some w → u.label? = some label) (member : label ∈ way)
    (same : Value.replace swap held = held) : replaceEntries swap entries = entries := by
  obtain ⟨front, back, rfl, -, off⟩ := holds.split
  have absent := off label member
  rw [labelsOfEntries_append, List.mem_append, not_or] at absent
  have before := replaceEntries_of_not_mem only front absent.1
  have behind := replaceEntries_of_not_mem only back absent.2
  rw [replaceEntries_eq_map] at before behind ⊢
  rw [List.map_append, List.map_cons, before, behind, same]

/-! ### A way -/

/-- A path leads from a mapping to a value. The containers on the way are in it once, their labels
are in `way`, and nothing off the way nor the value mentions one of these. -/
inductive Leads (way : List Label) : Entries → List String → Value → Prop
  | last {entries : Entries} {part : String} {value : Value}
      (holds : Holds way part value entries) (plain : ∀ l ∈ way, l ∉ value.labels) :
      Leads way entries [part] value
  | next {entries child : Entries} {part : String} {rest : List String} {label : Option Label}
      {value : Value} (holds : Holds way part (.map label child) entries)
      (alone : ∀ l ∈ label, l ∈ way ∧ l ∉ labelsOfEntries child)
      (more : Leads way child rest value) : Leads way entries (part :: rest) value

variable {path : List String} {value : Value}

theorem Leads.at? (leads : Leads way entries path value) (label : Option Label) :
    (Value.map label entries).at? (path.map .str) = some value := by
  induction leads generalizing label with
  | last holds plain =>
    rw [List.map_cons, Value.at?, holds.get?]
    cases value <;> rfl
  | next holds alone more ih =>
    rw [List.map_cons, Value.at?, holds.get?]
    exact ih _

/-- The containers of a label off the way may be replaced by what mentions no label of the way. -/
theorem Leads.replace (leads : Leads way entries path value) {swap : Value → Option Value}
    {label : Label} (only : ∀ u w, swap u = some w → u.label? = some label) (off : label ∉ way)
    (fresh : ∀ u w, swap u = some w → ∀ l ∈ w.labels, l ∉ way) :
    Leads way (replaceEntries swap entries) path (Value.replace swap value) := by
  induction leads with
  | last holds plain =>
    refine .last (holds.replace fresh) ?_
    intro l member mentioned
    exact labels_replace (p := (· ∉ way)) (fun u w _ => fresh u w) _
      (fun l inside member => plain l member inside) l mentioned member
  | @next entries child part rest own value holds alone more ih =>
    have kept : Value.replace swap (.map own child) = .map own (replaceEntries swap child) := by
      rw [Value.replace]
      cases swapped : swap (.map own child) with
      | none => rfl
      | some w => exact absurd (alone label (only _ w swapped)).1 off
    have holds := holds.replace fresh
    rw [kept] at holds
    refine .next holds ?_ ih
    intro l labelled
    obtain ⟨member, absent⟩ := alone l labelled
    refine ⟨member, fun mentioned => ?_⟩
    exact labels_replaceEntries (p := (· ≠ l)) (fun u w _ swapped k inside same =>
      fresh u w swapped k inside (same ▸ member)) child (fun k inside same =>
        absent (same ▸ inside)) l mentioned rfl

/-- A container that is found somewhere, and what is around it, lie off the way: neither it nor a
container around it with a label of its own mentions a label of the way. -/
def OffWay (way : List Label) (outer : List (Label × Entries)) (container : Value) : Prop :=
  (∀ l ∈ way, l ∉ container.labels) ∧ ∀ x ∈ outer, x.1 ∉ way → ∀ l ∈ labelsOfEntries x.2, l ∉ way

theorem offWay_of_get? {key : Scalar} {child found : Value} (below : entries.get? key = some child)
    (clean : ∀ l ∈ way, l ∉ child.labels) {path : List Scalar}
    (inside : child.at? path = some found) :
    OffWay way (enclosing entries (key :: path)) found := by
  refine ⟨fun l member mentioned => clean l member (labels_subset_of_at? inside mentioned), ?_⟩
  intro x listed _ l mentioned member
  have part := labels_subset_of_mem_enclosing below x listed
  exact clean l member (part (List.mem_append_right _ mentioned))

/-- A container that is found somewhere lies off the way, or it is one of the way, which is nowhere
else, so that showing it wherever it occurs changes nothing; it mentions neither itself nor what is
around it then. -/
theorem Leads.at?_cases (leads : Leads way entries path value) {label : Label}
    {other : List Scalar} {own : Entries} {outer : Option Label} (outside : outer ≠ some label)
    (found : (Value.map outer entries).at? other = some (.map (some label) own)) :
    OffWay way (enclosing entries other) (.map (some label) own) ∨
      label ∈ way ∧ replaceEntries (refreshed label own) entries = entries ∧
        label ∉ labelsOfEntries own ∧
        ∀ x ∈ enclosing entries other, x.1 ∉ labelsOfEntries own := by
  induction leads generalizing other outer with
  | @last entries part value holds plain =>
    cases other with
    | nil => cases found; exact absurd rfl outside
    | cons key path =>
      obtain ⟨child, below, found⟩ := Option.bind_eq_some_iff.mp found
      by_cases same : key = .str part
      · subst same
        rw [holds.get?] at below
        cases below
        exact .inl (offWay_of_get? holds.get? plain found)
      · exact .inl (offWay_of_get? below (holds.off same below) found)
  | @next entries inner part rest own' value holds alone more ih =>
    cases other with
    | nil => cases found; exact absurd rfl outside
    | cons key path =>
      obtain ⟨child, below, found⟩ := Option.bind_eq_some_iff.mp found
      by_cases same : key = .str part
      · subst same
        rw [holds.get?] at below
        cases below
        cases path with
        | nil =>
          cases found
          obtain ⟨member, absent⟩ := alone label rfl
          refine .inr ⟨member, holds.replace_eq_self label?_of_refreshed member ?_, absent, nofun⟩
          rw [Value.replace, refreshed, if_pos rfl]
          rfl
        | cons key path =>
          have inside : (Value.map (some label) own).labels ⊆ labelsOfEntries inner := by
            obtain ⟨child, below, found⟩ := Option.bind_eq_some_iff.mp found
            exact fun l mentioned =>
              labels_subset_of_get? below (labels_subset_of_at? found mentioned)
          have apart : own' ≠ some label := by
            rintro rfl
            exact (alone label rfl).2 (inside (.head _))
          rw [enclosing_of_get? holds.get?]
          simp only [OffWay, List.forall_mem_append, List.forall_mem_map, Option.mem_toList]
          rcases ih apart found with ⟨clean, off⟩ | ⟨member, kept, absent, off⟩
          · exact .inl ⟨clean, off, fun l labelled outside => absurd (alone l labelled).1 outside⟩
          · refine .inr
              ⟨member, holds.replace_eq_self label?_of_refreshed member ?_, absent, off, ?_⟩
            · rw [Value.replace, refreshed, if_neg apart, Option.getD_none, kept]
            · exact fun l labelled mentioned =>
                (alone l labelled).2 (inside (List.mem_append_right _ mentioned))
      · exact .inl (offWay_of_get? below (holds.off same below) found)

/-- Showing a container wherever it occurs leaves the way as it is, and a value without labels at
its end. -/
theorem Leads.share (leads : Leads way entries path value) (other : List Scalar) :
    ∃ shown, Leads way (Value.share entries other) path shown ∧
      (value.labels = [] → shown = value) := by
  unfold Value.share
  split
  next label own found =>
    rw [refreshEntries_eq_replaceEntries]
    have root : none ≠ some label := nofun
    rcases leads.at?_cases root found with ⟨clean, around⟩ | ⟨-, kept, absent, around⟩
    · have off : label ∉ way := fun member => clean label member (.head _)
      have inside : ∀ l ∈ labelsOfEntries own, l ∉ way := fun l mentioned member =>
        clean l member (.tail _ mentioned)
      have shown : ∀ u w,
          refreshed label (standalone label (enclosing entries other) own) u = some w →
          ∀ l ∈ w.labels, l ∉ way := by
        intro u w swapped
        rw [eq_of_refreshed swapped]
        exact List.forall_mem_cons.mpr
          ⟨off, labels_standalone (p := (· ∉ way)) off inside around⟩
      refine ⟨_, leads.replace label?_of_refreshed off shown, ?_⟩
      intro plain
      apply replace_of_not_mem label?_of_refreshed
      rw [plain]
      exact List.not_mem_nil
    · rw [standalone_eq_self absent around, kept]
      exact ⟨value, leads, fun _ => rfl⟩
  next => exact ⟨value, leads, fun _ => rfl⟩

theorem Leads.shareAll (leads : Leads way entries path value) (others : List (List Scalar)) :
    ∃ shown, Leads way (others.foldl Value.share entries) path shown ∧
      (value.labels = [] → shown = value) := by
  induction others generalizing entries value with
  | nil => exact ⟨value, leads, fun _ => rfl⟩
  | cons other rest ih =>
    obtain ⟨shown, leads, same⟩ := leads.share other
    obtain ⟨final, leads, same'⟩ := ih leads
    refine ⟨final, leads, fun plain => ?_⟩
    obtain rfl := same plain
    exact same' plain

/-! ### Writing -/

/-- What a path goes on in from a key: the mapping there, or a new one. -/
def entered? (entries : Entries) (key : String) : Option (Option Label × Entries) :=
  match entries.field? key with
  | none | some (.scalar .null) => some (none, [])
  | some (.map label child) => some (label, child)
  | some _ => none

theorem write_cons_cons (entries : Entries) (part next : String) (rest : List String)
    (value : Value) :
    write entries (part :: next :: rest) value =
      (entered? entries (resolveKey entries part)).bind fun entered =>
        (write entered.2 (next :: rest) value).map fun child =>
          entries.set (.str (resolveKey entries part)) (.map entered.1 child) := by
  rw [write, entered?]
  · cases entries.field? (resolveKey entries part) with
    | none => rfl
    | some own =>
      cases own with
      | scalar s => cases s <;> rfl
      | _ => rfl
  · nofun

/-- A path goes on in a new mapping or in the one that is there. -/
theorem entered?_cases {key : String} {entered : Option Label × Entries}
    (found : entered? entries key = some entered) :
    entered = (none, []) ∨ entries.get? (.str key) = some (.map entered.1 entered.2) := by
  unfold entered? at found
  split at found
  next => cases found; exact .inl rfl
  next => cases found; exact .inl rfl
  next label child own => cases found; exact .inr own
  next => cases found

theorem labels_entered? {key : String} {entered : Option Label × Entries}
    (found : entered? entries key = some entered) :
    ∀ l ∈ (Value.map entered.1 entered.2).labels,
      ∃ old, entries.get? (.str key) = some old ∧ l ∈ old.labels := by
  rcases entered?_cases found with rfl | own
  · exact nofun
  · exact fun l mentioned => ⟨_, own, mentioned⟩

/-- Writing sets one key, and what it holds then mentions no labels but those of what it held and
of the value. -/
theorem exists_set_of_write {entries written : Entries} {part : String} {rest : List String}
    {value : Value} (done : write entries (part :: rest) value = some written) :
    ∃ held, written = entries.set (.str (resolveKey entries part)) held ∧
      ∀ l ∈ held.labels, l ∈ value.labels ∨
        ∃ old, entries.get? (.str (resolveKey entries part)) = some old ∧ l ∈ old.labels := by
  induction rest generalizing entries part written with
  | nil =>
    cases done
    exact ⟨value, rfl, fun l mentioned => .inl mentioned⟩
  | cons next rest ih =>
    rw [write_cons_cons, Option.bind_eq_some_iff] at done
    obtain ⟨entered, found, done⟩ := done
    obtain ⟨child, below, rfl⟩ := Option.map_eq_some_iff.mp done
    obtain ⟨held, rfl, known⟩ := ih below
    refine ⟨_, rfl, fun l mentioned => ?_⟩
    rw [labels, List.mem_append] at mentioned
    have inside := labels_entered? found l
    rw [labels, List.mem_append] at inside
    rcases mentioned with labelled | mentioned
    · exact .inr (inside (.inl labelled))
    · rcases labels_set mentioned with old | own
      · exact .inr (inside (.inr old))
      · rcases known l own with fresh | ⟨old, there, mentioned⟩
        · exact .inl fresh
        · exact .inr (inside (.inr (labels_subset_of_get? there mentioned)))

theorem labels_write {entries written : Entries} {path : List String} {value : Value}
    (done : write entries path value = some written) {l : Label}
    (member : l ∈ labelsOfEntries written) : l ∈ labelsOfEntries entries ∨ l ∈ value.labels := by
  cases path with
  | nil => cases done
  | cons part rest =>
    obtain ⟨held, rfl, known⟩ := exists_set_of_write done
    rcases labels_set member with old | own
    · exact .inl old
    · rcases known l own with fresh | ⟨old, there, mentioned⟩
      · exact .inr fresh
      · exact .inl (labels_subset_of_get? there mentioned)

/-- A value that is written at the end of a way takes the place of the old one. -/
theorem Leads.write_own (leads : Leads way entries path value) {new : Value}
    (plain : ∀ l ∈ way, l ∉ new.labels) :
    ∃ written, write entries path new = some written ∧ Leads way written path new := by
  induction leads with
  | @last entries part value holds _ =>
    refine ⟨_, rfl, .last ?_ plain⟩
    rw [holds.spelled]
    exact holds.set_own new
  | @next entries child part rest label value holds alone more ih =>
    obtain ⟨written, done, leads⟩ := ih
    refine ⟨entries.set (.str part) (.map label written), ?_, .next (holds.set_own _) ?_ leads⟩
    · have entered : entered? entries part = some (label, child) := by
        rw [entered?, Entries.field?, holds.get?]
      cases rest with
      | nil => cases more
      | cons next rest =>
        rw [write_cons_cons, holds.spelled, entered, Option.bind_some, done, Option.map_some]
    · intro l labelled
      obtain ⟨member, absent⟩ := alone l labelled
      refine ⟨member, fun mentioned => ?_⟩
      rcases labels_write done mentioned with old | own
      · exact absent old
      · exact plain l member own

/-- Two paths of which neither goes on from the other. -/
def Apart (path other : List String) : Prop :=
  ¬path <+: other ∧ ¬other <+: path

theorem apart_cons_iff {part : String} {path other : List String} :
    Apart (part :: path) (part :: other) ↔ Apart path other := by
  simp [Apart, List.cons_prefix_cons]

/-- Writing under another key leaves what is held under this one alone. -/
theorem Holds.write_other (holds : Holds way part held entries) (final : lowered part = part)
    {key : String} {rest : List String} (lower : lowered key = key) (other : key ≠ part)
    {new : Value} (plain : ∀ l ∈ way, l ∉ new.labels) {written : Entries}
    (done : write entries (key :: rest) new = some written) : Holds way part held written := by
  have spelled : lowered (resolveKey entries key) ≠ part := by
    rw [lowered_resolveKey entries lower]
    exact other
  have distinct : Scalar.str (resolveKey entries key) ≠ .str part := by
    intro same
    rw [Scalar.str.inj same] at spelled
    exact spelled final
  obtain ⟨fresh, rfl, known⟩ := exists_set_of_write done
  apply holds.set_other final spelled
  intro l member mentioned
  rcases known l mentioned with own | ⟨old, there, mentioned⟩
  · exact plain l member own
  · exact holds.off distinct there l member mentioned

/-- Writing at a path that is apart from a way leaves the way and its value alone. -/
theorem Leads.write_other (leads : Leads way entries path value)
    (final : ∀ part ∈ path, lowered part = part) {other : List String}
    (lower : ∀ part ∈ other, lowered part = part) (apart : Apart path other) {new : Value}
    (plain : ∀ l ∈ way, l ∉ new.labels) {written : Entries}
    (done : write entries other new = some written) : Leads way written path value := by
  induction leads generalizing other written with
  | @last entries part value holds own =>
    cases other with
    | nil => cases done
    | cons key rest =>
      have distinct : key ≠ part := by
        rintro rfl
        exact apart.1 (List.cons_prefix_cons.mpr ⟨rfl, List.nil_prefix⟩)
      have kept :=
        holds.write_other (final part (.head _)) (lower key (.head _)) distinct plain done
      exact .last kept own
  | @next entries child part rest' label value holds alone more ih =>
    obtain ⟨own, others⟩ := List.forall_mem_cons.mp final
    cases other with
    | nil => cases done
    | cons key rest =>
      by_cases same : key = part
      · subst same
        have apart := apart_cons_iff.mp apart
        cases rest with
        | nil => exact absurd List.nil_prefix apart.2
        | cons next rest =>
          have entered : entered? entries key = some (label, child) := by
            rw [entered?, Entries.field?, holds.get?]
          rw [write_cons_cons, holds.spelled, entered, Option.bind_some] at done
          obtain ⟨below, inside, rfl⟩ := Option.map_eq_some_iff.mp done
          refine .next (holds.set_own _) ?_
            (ih others (List.forall_mem_cons.mp lower).2 apart inside)
          intro l labelled
          obtain ⟨member, absent⟩ := alone l labelled
          refine ⟨member, fun mentioned => ?_⟩
          rcases labels_write inside mentioned with old | fresh
          · exact absent old
          · exact plain l member fresh
      · exact .next (holds.write_other own (lower key (.head _)) same plain done) alone more

end Override

end MarkupLint
