import MarkupLint.Proofs.Layers
import MarkupLint.Proofs.OverrideWalk

/-!
What a setting leaves alone. Along its path there are mappings that are all different
(`Override.Goes`), and a place beside the path keeps its value unless one of these mappings is
met or held there too (`Override.Off`). Writing changes the path only (`Override.at?_write`);
showing a mapping of the path wherever it occurs keeps the path and what is beside it
(`Override.Goes.share`).
-/
namespace MarkupLint

namespace Override

open MarkupLint.Value

/-! ### Off the way -/

/-- What a path meets is none of these mappings, and what it leads to holds none. -/
def Clear (way : List Label) : Value → List Scalar → Prop
  | value, [] => ∀ l ∈ way, l ∉ value.labels
  | value, key :: rest =>
      (∀ l ∈ value.label?, l ∉ way) ∧
        ∀ entries child, value.entries? = some entries → entries.get? key = some child →
          Clear way child rest

/-- A path that leaves another one, and is clear of these mappings from there on. -/
def Off (way : List Label) : Entries → List Scalar → List Scalar → Prop
  | entries, key :: rest, other :: more =>
      if other = key then
        ∃ label child, entries.get? key = some (.map label child) ∧ Off way child rest more
      else ∀ child, entries.get? other = some child → Clear way child more
  | _, _, _ => False

/-- A path of keys leads through mappings to a value. The labels of the mappings are listed, and
are all different. -/
inductive Goes : List Label → Entries → List Scalar → Value → Prop
  | last {entries : Entries} {key : Scalar} {value : Value}
      (found : entries.get? key = some value) : Goes [] entries [key] value
  | next {way : List Label} {entries child : Entries} {key : Scalar} {rest : List Scalar}
      {label : Option Label} {value : Value} (found : entries.get? key = some (.map label child))
      (fresh : ∀ l ∈ label, l ∉ way) (more : Goes way child rest value) :
      Goes (label.toList ++ way) entries (key :: rest) value

theorem not_off_nil (way : List Label) (entries : Entries) (path : List Scalar) :
    ¬Off way entries path [] := by
  cases path <;> exact id

section Replace

variable {swap : Value → Option Value} {label : Label} {way inner : List Label}
  {entries : Entries} {value : Value} {path : List Scalar}

theorem get?_replaceEntries (swap : Value → Option Value) (entries : Entries) (key : Scalar) :
    (replaceEntries swap entries).get? key = (entries.get? key).map (replace swap) := by
  rw [replaceEntries_eq_map, Entries.get?_map]

/-- A value that is not replaced itself is replaced in its parts. -/
theorem replace_of_kept (kept : swap value = none) :
    (replace swap value).label? = value.label? ∧
      (replace swap value).entries? = value.entries?.map (replaceEntries swap) := by
  cases value <;> simp [replace, kept, label?, entries?]

theorem replace_map_of_kept (only : ∀ u w, swap u = some w → u.label? = some label)
    {own : Option Label} (other : own ≠ some label) :
    replace swap (.map own entries) = .map own (replaceEntries swap entries) := by
  rw [replace]
  cases swapped : swap (.map own entries) with
  | none => rfl
  | some w => exact absurd (only _ w swapped) other

/-- A replacement of one of the mappings is not seen from a path that is clear of them. -/
theorem Clear.replace (clear : Clear way value path)
    (only : ∀ u w, swap u = some w → u.label? = some label) (member : label ∈ way) :
    (Value.replace swap value).at? path = value.at? path ∧
      Clear way (Value.replace swap value) path := by
  induction path generalizing value with
  | nil =>
    rw [replace_of_not_mem only value (clear label member)]
    exact ⟨rfl, clear⟩
  | cons key rest ih =>
    obtain ⟨apart, below⟩ := clear
    have kept : swap value = none := by
      cases swapped : swap value with
      | none => rfl
      | some w => exact absurd member (apart label (only _ w swapped))
    obtain ⟨sameLabel, sameEntries⟩ := replace_of_kept kept
    cases own : value.entries? with
    | none =>
      rw [own, Option.map_none] at sameEntries
      rw [at?_cons_eq_none own, at?_cons_eq_none sameEntries]
      refine ⟨rfl, sameLabel ▸ apart, ?_⟩
      intro entries child isEntries
      rw [sameEntries] at isEntries
      cases isEntries
    | some entries =>
      rw [own, Option.map_some] at sameEntries
      obtain ⟨outer, isMap⟩ := exists_map_of_entries? own
      obtain ⟨outer', isMap'⟩ := exists_map_of_entries? sameEntries
      constructor
      · rw [isMap', isMap, at?_cons, at?_cons, get?_replaceEntries]
        cases found : entries.get? key with
        | none => rfl
        | some child => exact (ih (below entries child own found)).1
      · refine ⟨sameLabel ▸ apart, ?_⟩
        intro entries' child' isEntries found'
        rw [sameEntries] at isEntries
        cases isEntries
        rw [get?_replaceEntries] at found'
        obtain ⟨child, found, rfl⟩ := Option.map_eq_some_iff.mp found'
        exact (ih (below entries child own found)).2

/-- The same way leads to the same value in other entries, and nothing else is to be seen beside
it. -/
structure Keeps (way inner : List Label) (path : List Scalar) (value : Value)
    (entries shown : Entries) : Prop where
  goes : Goes inner shown path value
  beside : ∀ other, Off way entries path other →
    (Value.map none shown).at? other = (Value.map none entries).at? other ∧
      Off way shown path other

theorem Goes.keeps (goes : Goes inner entries path value) :
    Keeps way inner path value entries entries :=
  ⟨goes, fun _ beside => ⟨rfl, beside⟩⟩

theorem Keeps.trans {shown later : Entries} (one : Keeps way inner path value entries shown)
    (two : Keeps way inner path value shown later) :
    Keeps way inner path value entries later := by
  refine ⟨two.goes, fun other beside => ?_⟩
  obtain ⟨same, still⟩ := one.beside other beside
  obtain ⟨same', still'⟩ := two.beside other still
  exact ⟨same'.trans same, still'⟩

/-- A replacement of one of the mappings is not seen from a path that leaves the way at once. -/
theorem Off.replace_of_ne {key first : Scalar} {rest more : List Scalar}
    (beside : Off way entries (key :: rest) (first :: more)) (distinct : first ≠ key)
    (only : ∀ u w, swap u = some w → u.label? = some label) (member : label ∈ way) :
    (Value.map none (replaceEntries swap entries)).at? (first :: more) =
        (Value.map none entries).at? (first :: more) ∧
      Off way (replaceEntries swap entries) (key :: rest) (first :: more) := by
  rw [Off, if_neg distinct] at beside ⊢
  rw [at?_cons, at?_cons, get?_replaceEntries]
  cases found : entries.get? first with
  | none => exact ⟨rfl, nofun⟩
  | some child =>
    obtain ⟨same, still⟩ := (beside child found).replace only member
    exact ⟨same, fun child' isChild => Option.some.inj isChild ▸ still⟩

/-- A replacement of one of the mappings keeps a way if it keeps what the way goes on in. -/
theorem Keeps.next {key : Scalar} {rest : List Scalar} {own : Option Label} {child child' : Entries}
    (keeps : Keeps way inner rest value child child')
    (there : entries.get? key = some (.map own child)) (fresh : ∀ l ∈ own, l ∉ inner)
    (only : ∀ u w, swap u = some w → u.label? = some label) (member : label ∈ way)
    (becomes : replace swap (.map own child) = .map own child') :
    Keeps way (own.toList ++ inner) (key :: rest) value entries (replaceEntries swap entries) := by
  have there' : (replaceEntries swap entries).get? key = some (.map own child') := by
    rw [get?_replaceEntries, there, Option.map_some, becomes]
  refine ⟨.next there' fresh keeps.goes, fun other beside => ?_⟩
  cases other with
  | nil => exact absurd beside (not_off_nil _ _ _)
  | cons first more =>
    by_cases same : first = key
    · subst same
      rw [Off, if_pos rfl] at beside ⊢
      obtain ⟨own', inside, found, beside⟩ := beside
      rw [there] at found
      cases found
      obtain ⟨sameValue, still⟩ := keeps.beside more beside
      rw [at?_cons, at?_cons, there', there]
      refine ⟨?_, own, child', rfl, still⟩
      cases more with
      | nil => exact absurd beside (not_off_nil _ _ _)
      | cons => exact sameValue
    · exact beside.replace_of_ne same only member

/-- A replacement of one of the mappings keeps a way that does not go through it. -/
theorem Goes.keeps_replace (goes : Goes inner entries path value)
    (only : ∀ u w, swap u = some w → u.label? = some label) (member : label ∈ way)
    (off : label ∉ inner) (plain : label ∉ value.labels) :
    Keeps way inner path value entries (replaceEntries swap entries) := by
  induction goes with
  | @last entries key value found =>
    refine ⟨.last ?_, fun other beside => ?_⟩
    · rw [get?_replaceEntries, found, Option.map_some, replace_of_not_mem only _ plain]
    · cases other with
      | nil => exact absurd beside (not_off_nil _ _ _)
      | cons first more =>
        by_cases same : first = key
        · rw [Off, if_pos same] at beside
          obtain ⟨_, _, _, none⟩ := beside
          exact absurd none id
        · exact beside.replace_of_ne same only member
  | next found fresh more ih =>
    rw [List.mem_append, not_or, Option.mem_toList] at off
    exact (ih off.2 plain).next found fresh only member (replace_map_of_kept only off.1)

end Replace

/-! ### Showing a mapping of the way wherever it occurs -/

section Share

variable {way inner : List Label} {entries own : Entries} {value : Value}
  {path before : List Scalar} {label : Label}

/-- From a mapping that a way goes through, the way goes on through others, among which there are
none of those around it; and what keeps the rest of the way may be shown in its place. -/
theorem Goes.exists_rest {rest : List Scalar} (goes : Goes inner entries (before ++ rest) value)
    (more : rest ≠ []) (listed : inner ⊆ way)
    (found : (Value.map none entries).at? before = some (.map (some label) own)) :
    ∃ last, Goes last own rest value ∧ last ⊆ inner ∧
      (∀ l ∈ label :: (enclosing entries before).map Prod.fst, l ∈ inner ∧ l ∉ last) ∧
      ∀ shown, Keeps way last rest value own shown →
        Keeps way inner (before ++ rest) value entries
          (replaceEntries (refreshed label shown) entries) := by
  induction before generalizing inner entries with
  | nil => cases found
  | cons key before ih =>
    generalize whole : key :: before ++ rest = path at goes
    cases goes with
    | last =>
      have none : before ++ rest = [] := (List.cons.inj whole).2
      exact absurd (List.append_eq_nil_iff.mp none).2 more
    | @next inner _ child _ _ outer _ there fresh further =>
      cases whole
      have sub : inner ⊆ outer.toList ++ inner := List.subset_append_right _ _
      rw [at?_cons, there, Option.bind_some] at found
      cases before with
      | nil =>
        -- The place is here: what is shown takes the place of this mapping.
        cases found
        refine ⟨inner, further, sub, ?_, fun shown keeps => ?_⟩
        · exact List.forall_mem_singleton.mpr ⟨.head _, fresh label rfl⟩
        · refine keeps.next there fresh label?_of_refreshed (listed (.head _)) ?_
          rw [Value.replace, refreshed, if_pos rfl, Option.getD_some]
      | cons next before =>
        obtain ⟨last, onward, inside, around, shows⟩ := ih further (List.Subset.trans sub listed) found
        -- The place is further in, so this mapping is another one and stays around it.
        have member := (around label (.head _)).1
        have distinct : outer ≠ some label := fun same => fresh label same member
        refine ⟨last, onward, List.Subset.trans inside sub, ?_, fun shown keeps => ?_⟩
        · rw [enclosing_of_get? there, List.map_append, ← List.cons_append]
          refine List.forall_mem_append.mpr ⟨fun l listed => ?_, fun l listed => ?_⟩
          · obtain ⟨member, off⟩ := around l listed
            exact ⟨sub member, off⟩
          · rw [List.map_map, List.mem_map] at listed
            obtain ⟨l, own, rfl⟩ := listed
            have off : l ∉ inner := fresh l (Option.mem_toList.mp own)
            exact ⟨List.mem_append_left _ own, fun member => off (inside member)⟩
        · exact (shows shown keeps).next there fresh label?_of_refreshed (listed (sub member))
            (replace_map_of_kept label?_of_refreshed distinct)

/-- Showing a mapping of a way wherever it occurs keeps the way. -/
theorem Goes.share (goes : Goes inner entries path value) (plain : ∀ l ∈ inner, l ∉ value.labels)
    (listed : inner ⊆ way) (begins : before <+: path) (proper : before ≠ path) :
    Keeps way inner path value entries (Value.share entries before) := by
  obtain ⟨rest, rfl⟩ := begins
  have more : rest ≠ [] := by
    rintro rfl
    exact proper (List.append_nil before).symm
  unfold Value.share
  split
  next label own found =>
    obtain ⟨last, goes', -, around, shows⟩ := goes.exists_rest more listed found
    obtain ⟨⟨member, off⟩, others⟩ := List.forall_mem_cons.mp around
    rw [refreshEntries_eq_replaceEntries]
    apply shows
    -- Every replacement that the shown entries go through is of a mapping that the way is past.
    refine standalone_induction (Keeps way last rest value own) ?_ ?_
    · exact goes'.keeps_replace label?_of_knotted (listed member) off (plain label member)
    · intro x outer inner keeps
      obtain ⟨member, off⟩ := others x.1 (List.mem_map_of_mem outer)
      exact keeps.trans
        (keeps.goes.keeps_replace label?_of_filled (listed member) off (plain x.1 member))
  next => exact goes.keeps

theorem Goes.shareAll (goes : Goes inner entries path value)
    (plain : ∀ l ∈ inner, l ∉ value.labels) (listed : inner ⊆ way) {places : List (List Scalar)}
    (onWay : ∀ place ∈ places, place <+: path ∧ place ≠ path) :
    Keeps way inner path value entries (places.foldl Value.share entries) := by
  induction places generalizing entries with
  | nil => exact goes.keeps
  | cons place rest ih =>
    obtain ⟨⟨begins, proper⟩, others⟩ := List.forall_mem_cons.mp onWay
    have shown := goes.share plain listed begins proper
    exact shown.trans (ih shown.goes others)

theorem Goes.at? (goes : Goes inner entries path value) :
    (Value.map none entries).at? path = some value := by
  induction goes with
  | last found => rw [at?_cons, found, Option.bind_some, at?_nil]
  | @next way entries child key rest label value found fresh more ih =>
    rw [at?_cons, found, Option.bind_some]
    cases more <;> exact ih

/-- Before its end a way leads to mappings. -/
theorem Goes.exists_map (goes : Goes inner entries path value) (begins : before <+: path)
    (proper : before ≠ path) (outer : Option Label) :
    ∃ label child, (Value.map outer entries).at? before = some (.map label child) := by
  induction goes generalizing before outer with
  | last =>
    rcases List.prefix_cons_iff.mp begins with rfl | ⟨rest, rfl, further⟩
    · exact ⟨outer, _, rfl⟩
    · rw [List.prefix_nil.mp further] at proper
      exact absurd rfl proper
  | next found fresh more ih =>
    rcases List.prefix_cons_iff.mp begins with rfl | ⟨rest, rfl, further⟩
    · exact ⟨outer, _, rfl⟩
    · rw [at?_cons, found, Option.bind_some]
      exact ih further (fun same => proper (congrArg _ same)) _

end Share

/-! ### Writing -/

section Write

variable {entries written : Entries} {path : List String} {value : Value}

theorem into?_of_entered? {key : String} {entered : Option Label × Entries}
    (found : entered? entries key = some entered) (around : Around) :
    into? around (entries.field? key) = some (entered :: around) := by
  unfold entered? at found
  split at found <;> cases found <;> simp [into?, *]

theorem resolvePath_cons_of_entered? {part : String} {entered : Option Label × Entries}
    (found : entered? entries (resolveKey entries part) = some entered) (rest : List String) :
    resolvePath entries (part :: rest) =
      resolveKey entries part :: resolvePath entered.2 rest := by
  unfold entered? at found
  rw [resolvePath]
  split at found <;> cases found <;> simp [*]

/-- What a new mapping has below it was not there before either. -/
theorem at?_of_entered? {key : String} {entered : Option Label × Entries}
    (found : entered? entries key = some entered) (first : Scalar) (more : List Scalar) :
    ((entries.get? (.str key)).bind fun held => held.at? (first :: more)) =
      (Value.map none entered.2).at? (first :: more) := by
  unfold entered? Entries.field? at found
  split at found <;> cases found <;> simp [*, Value.at?, Entries.get?_nil]

/-- What is written makes the path a way to the value. -/
theorem goes_write {label : Option Label} {outer : Around}
    (once : (met ((label, entries) :: outer) path.dropLast).Nodup)
    (done : write entries path value = some written) :
    Goes (met ((label, entries) :: outer) path.dropLast) written
      ((resolvePath entries path).map .str) value := by
  induction path generalizing entries written label outer with
  | nil => cases done
  | cons part rest ih =>
    have self : (Scalar.str (resolveKey entries part)).same (.str (resolveKey entries part)) :=
      (Scalar.same_str_iff _ _).mpr rfl
    cases rest with
    | nil =>
      cases done
      apply Goes.last
      rw [Entries.get?_set, if_pos self]
    | cons next rest =>
      rw [write_cons_cons, Option.bind_eq_some_iff] at done
      obtain ⟨entered, found, done⟩ := done
      obtain ⟨below, wrote, rfl⟩ := Option.map_eq_some_iff.mp done
      rw [List.dropLast_cons_of_ne_nil (List.cons_ne_nil _ _), met, enter?,
        into?_of_entered? found] at once ⊢
      rw [resolvePath_cons_of_entered? found]
      refine .next ?_ ?_ (ih (List.nodup_append.mp once).2.1 wrote)
      · rw [Entries.get?_set, if_pos self]
        rfl
      · intro l labelled member
        exact (List.nodup_append.mp once).2.2 l (Option.mem_toList.mpr labelled) l member rfl

/-- What is written is not seen from a path that neither goes on from the one that is taken nor
leads to it. -/
theorem at?_write (done : write entries path value = some written) {other : List Scalar}
    (beyond : ¬(resolvePath entries path).map Scalar.str <+: other)
    (above : ¬other <+: (resolvePath entries path).map Scalar.str) :
    (Value.map none written).at? other = (Value.map none entries).at? other := by
  induction path generalizing entries written other with
  | nil => cases done
  | cons part rest ih =>
    cases other with
    | nil => exact absurd List.nil_prefix above
    | cons first more =>
      by_cases same : first = .str (resolveKey entries part)
      · subst same
        cases rest with
        | nil => exact absurd (List.prefix_append _ more) beyond
        | cons next rest =>
          rw [write_cons_cons, Option.bind_eq_some_iff] at done
          obtain ⟨entered, found, done⟩ := done
          obtain ⟨below, wrote, rfl⟩ := Option.map_eq_some_iff.mp done
          rw [resolvePath_cons_of_entered? found, List.map_cons, List.cons_prefix_cons]
            at beyond above
          have further := ih wrote (fun begins => beyond ⟨rfl, begins⟩)
            fun begins => above ⟨rfl, begins⟩
          have self : (Scalar.str (resolveKey entries part)).same (.str _) :=
            (Scalar.same_str_iff _ (resolveKey entries part)).mpr rfl
          cases more with
          | nil => exact absurd ⟨rfl, List.nil_prefix⟩ above
          | cons key more =>
            rw [at?_cons, at?_cons, Entries.get?_set, if_pos self, Option.bind_some,
              at?_of_entered? found]
            exact further
      · have differs : ¬(Scalar.str (resolveKey entries part)).same first = true :=
          fun alike => same ((Scalar.str_same_iff _ _).mp alike)
        obtain ⟨held, rfl, -⟩ := exists_set_of_write done
        rw [at?_cons, at?_cons, Entries.get?_set, if_neg differs]

end Write

/-! ### Setting -/

section Set

variable {way inner : List Label} {root entries : Entries} {value : Value}
  {path other : List Scalar}

/-- A path is clear of mappings that it does not meet. -/
theorem clear_of_at? {path : List Scalar}
    (through : ∀ front passed, front <+: path → value.at? front = some passed →
      ∀ l ∈ passed.label?, l ∉ way)
    (held : ∀ last, value.at? path = some last → ∀ l ∈ way, l ∉ last.labels) :
    Clear way value path := by
  induction path generalizing value with
  | nil => exact held value (at?_nil value)
  | cons key rest ih =>
    refine ⟨through [] value List.nil_prefix (at?_nil value), ?_⟩
    intro entries child own found
    obtain ⟨label, rfl⟩ := exists_map_of_entries? own
    have below (more : List Scalar) :
        (Value.map label entries).at? (key :: more) = child.at? more := by
      rw [at?_cons, found, Option.bind_some]
    refine ih (fun front passed begins there => ?_) fun last there => ?_
    · exact through (key :: front) passed (List.cons_prefix_cons.mpr ⟨rfl, begins⟩)
        ((below front).trans there)
    · exact held last ((below rest).trans there)

/-- A path that leaves a way at its first key. -/
theorem off_of_ne {key first : Scalar} {rest more : List Scalar} (distinct : first ≠ key)
    (through : ∀ front passed, front <+: first :: more → ¬front <+: key :: rest →
      (Value.map none entries).at? front = some passed → ∀ l ∈ passed.label?, l ∉ way)
    (held : ∀ last, (Value.map none entries).at? (first :: more) = some last →
      ∀ l ∈ way, l ∉ last.labels) :
    Off way entries (key :: rest) (first :: more) := by
  rw [Off, if_neg distinct]
  intro child found
  have below (path : List Scalar) :
      (Value.map none entries).at? (first :: path) = child.at? path := by
    rw [at?_cons, found, Option.bind_some]
  refine clear_of_at? (fun front passed begins there => ?_) fun last there => ?_
  · refine through (first :: front) passed (List.cons_prefix_cons.mpr ⟨rfl, begins⟩) ?_
      ((below front).trans there)
    exact fun begins => distinct (List.cons_prefix_cons.mp begins).1
  · exact held last ((below more).trans there)

theorem off_of_at? (goes : Goes inner entries path value) (beyond : ¬path <+: other)
    (above : ¬other <+: path)
    (through : ∀ front passed, front <+: other → ¬front <+: path →
      (Value.map none entries).at? front = some passed → ∀ l ∈ passed.label?, l ∉ way)
    (held : ∀ last, (Value.map none entries).at? other = some last →
      ∀ l ∈ way, l ∉ last.labels) :
    Off way entries path other := by
  induction goes generalizing other with
  | @last entries key value found =>
    cases other with
    | nil => exact absurd List.nil_prefix above
    | cons first more =>
      refine off_of_ne ?_ through held
      rintro rfl
      exact beyond (List.prefix_append [first] more)
  | @next way' entries child key rest label value found fresh more ih =>
    cases other with
    | nil => exact absurd List.nil_prefix above
    | cons first others =>
      by_cases same : first = key
      · subst same
        rw [List.cons_prefix_cons] at beyond above
        have below (next : Scalar) (others : List Scalar) :
            (Value.map none entries).at? (first :: next :: others) =
              (Value.map none child).at? (next :: others) := by
          rw [at?_cons, found, Option.bind_some]
          rfl
        rw [Off, if_pos rfl]
        refine ⟨label, child, found, ih (fun begins => beyond ⟨rfl, begins⟩)
          (fun begins => above ⟨rfl, begins⟩) ?_ ?_⟩
        · intro front passed begins away there
          cases front with
          | nil => exact absurd List.nil_prefix away
          | cons next front =>
            exact through (first :: next :: front) passed (List.cons_prefix_cons.mpr ⟨rfl, begins⟩)
              (fun begins => away (List.cons_prefix_cons.mp begins).2)
              ((below next front).trans there)
        · intro last there
          cases others with
          | nil => exact absurd ⟨rfl, List.nil_prefix⟩ above
          | cons next others => exact held last ((below next others).trans there)
      · exact off_of_ne same through held

/-- What a setting leaves behind: the value at the end of its path, mappings before it, and every
other place as it was, unless a mapping of the path is met or held there. -/
structure SetAt (way : List Label) (path : List Scalar) (value : Value) (root next : Entries) :
    Prop where
  there : (Value.ofEntries next).at? path = some value
  mappings : ∀ front, front <+: path → front ≠ path →
    ∃ label entries, (Value.ofEntries next).at? front = some (.map label entries)
  beside : ∀ other, ¬path <+: other → ¬other <+: path →
    (∀ front passed, front <+: other → ¬front <+: path →
      (Value.ofEntries root).at? front = some passed → ∀ l ∈ passed.label?, l ∉ way) →
    (∀ last, (Value.ofEntries root).at? other = some last → ∀ l ∈ way, l ∉ last.labels) →
    (Value.ofEntries next).at? other = (Value.ofEntries root).at? other

theorem mem_beginnings (member : other ∈ beginnings path) : other <+: path ∧ other ≠ path := by
  obtain ⟨count, listed, rfl⟩ := List.mem_map.mp member
  have less := List.mem_range.mp (List.mem_of_mem_drop (List.mem_reverse.mp listed))
  refine ⟨List.take_prefix count path, fun same => ?_⟩
  have length := congrArg List.length same
  rw [List.length_take] at length
  omega

theorem foldl_share_eq_self {places : List (List Scalar)}
    (each : ∀ place ∈ places, Value.share entries place = entries) :
    places.foldl Value.share entries = entries := by
  induction places with
  | nil => rfl
  | cons place rest ih =>
    obtain ⟨first, others⟩ := List.forall_mem_cons.mp each
    rw [List.foldl_cons, first, ih others]

/-- Writing at a path that comes to no mapping twice, and showing its mappings wherever they
occur. -/
theorem setAt_of_write {place : List String} {written : Entries}
    (once : (met [(none, root)] place.dropLast).Nodup)
    (plain : ∀ l ∈ met [(none, root)] place.dropLast, l ∉ value.labels)
    (wrote : write root place value = some written) :
    SetAt (met [(none, root)] place.dropLast) ((resolvePath root place).map .str) value root
      ((beginnings ((resolvePath root place).map .str)).foldl Value.share written) := by
  have goes := goes_write once wrote
  have keeps := goes.shareAll plain (List.Subset.refl _) fun _ => mem_beginnings
  refine ⟨keeps.goes.at?, fun front begins proper => keeps.goes.exists_map begins proper none, ?_⟩
  intro other beyond above through held
  have same (front : List Scalar) (begins : front <+: other)
      (away : ¬front <+: (resolvePath root place).map .str) :
      (Value.map none written).at? front = (Value.map none root).at? front :=
    at?_write wrote (fun longer => beyond (longer.trans begins)) away
  have beside := keeps.beside other (off_of_at? goes beyond above ?_ ?_)
  · exact beside.1.trans (at?_write wrote beyond above)
  · intro front passed begins away there
    rw [same front begins away] at there
    exact through front passed begins away there
  · intro last there
    rw [same other (List.prefix_refl other) above] at there
    exact held last there

end Set

/-- A setting fails if and only if its walk is stopped before the last part of its path, and then
nothing has been changed. Otherwise the value is at the end of the path, there are mappings on the
way to it, and other places are as they were. A path that comes back to a mapping it is inside is
taken from there, so that it leads to the same mapping. -/
theorem set_cases (root : Entries) (path : List String) (value : Value) (nonempty : path ≠ []) :
    let start : Around := [(none, root)]
    let place := direct root path.length path
    let way := met start place.dropLast
    walk? start place.dropLast = walk? start path.dropLast ∧
    ((met start path.dropLast).Nodup → place = path) ∧
    (walk? start path.dropLast = none →
      Override.set root path value = .error (.blockedOverride path) ∧
        setInPlace root place value = (root, false)) ∧
    (walk? start path.dropLast ≠ none →
      ∃ next, Override.set root path value = .ok next ∧
        (way.Nodup → (∀ l ∈ way, l ∉ value.labels) →
          SetAt way ((resolvePath root place).map .str) value root next)) := by
  intro start place way
  obtain ⟨nonempty', -, same⟩ := direct_spec root nonempty path.length (Nat.le_refl _)
  have stopped := write_direct_eq_none_iff root nonempty value
  refine ⟨same, fun once => direct_eq_self_of_nodup once _, fun isStopped => ?_, fun gone => ?_⟩
  · have unwritten := stopped.mpr isStopped
    rw [setInPlace_eq root nonempty' value, Override.set, unwritten]
    exact ⟨rfl, rfl⟩
  · obtain ⟨written, wrote⟩ := Option.ne_none_iff_exists'.mp (mt stopped.mp gone)
    refine ⟨_, ?_, fun once plain => setAt_of_write once plain wrote⟩
    rw [Override.set, wrote]

/-- A setting below a mapping that occurs twice, through a key that is spelled in another way and
holds nothing. -/
theorem set_cases_shared :
    let shared : Label := ⟨0, 1, false⟩
    let mapping : Value := .map (some shared) [(.str "X", .null), (.str "z", .int 1)]
    let root : Entries := [(.str "one", mapping), (.str "two", mapping), (.str "three", .int 3)]
    ["one", "x", "y"] ≠ [] ∧
      Override.set root ["three", "x"] (.int 5) = .error (.blockedOverride ["three", "x"]) ∧
      ∃ next, Override.set root ["one", "x", "y"] (.int 5) = .ok next ∧
        SetAt [shared] [.str "one", .str "X", .str "y"] (.int 5) root next := by
  intro shared mapping root
  obtain ⟨-, -, stopped, -⟩ := set_cases root ["three", "x"] (.int 5) (by decide)
  obtain ⟨-, -, -, done⟩ := set_cases root ["one", "x", "y"] (.int 5) (by decide)
  have blocked := Option.isNone_iff_eq_none.mp
    (by decide +kernel : (walk? [(none, root)] ["three"]).isNone = true)
  have gone := Option.ne_none_iff_isSome.mpr
    (by decide +kernel : (walk? [(none, root)] ["one", "x"]).isSome = true)
  obtain ⟨next, isSet, setAt⟩ := done gone
  have taken : direct root ["one", "x", "y"].length ["one", "x", "y"] = ["one", "x", "y"] := by
    decide +kernel
  have keys : resolvePath root ["one", "x", "y"] = ["one", "X", "y"] := by decide +kernel
  have way : met [(none, root)] ["one", "x"] = [shared] := by decide +kernel
  rw [taken, keys] at setAt
  change (met [(none, root)] ["one", "x"]).Nodup → (∀ l ∈ met [(none, root)] ["one", "x"], _) →
    SetAt (met [(none, root)] ["one", "x"]) _ _ _ _ at setAt
  rw [way] at setAt
  exact ⟨by decide, (stopped blocked).1, next, isSet,
    setAt (List.pairwise_singleton _ _) fun _ _ mentioned => nomatch mentioned⟩

end Override

namespace Config

open Override

/-- A mapping that a file puts in two places changes in both, although the setting is at one of
them; and where a path comes back to a mapping that it is inside, the setting may take the way to
its own place away. -/
theorem set_in_two_places :
    let file : String × FileContent :=
      ("a.yaml", { bytes := Utf8.encode "one: &c\n  x: 1\ntwo: *c\n" })
    let inside : Label := ⟨0, 1, true⟩
    let root : Entries := [(.str "a", .map (some inside) [(.str "x", .again inside true)])]
    (∃ merged next,
      (mergeFiles {} {} (numbered [file])).value = .ok merged ∧
      resolvePath merged ["one", "x"] = ["one", "x"] ∧
      Override.set merged ["one", "x"] (.int 5) = .ok next ∧
      (Value.ofEntries next).at? [.str "two", .str "x"] ≠
        (Value.ofEntries merged).at? [.str "two", .str "x"]) ∧
    resolvePath root ["a", "x", "x"] = ["a", "x", "x"] ∧
    ∃ next, Override.set root ["a", "x", "x"] (.int 5) = .ok next ∧
      (Value.ofEntries next).at? [.str "a", .str "x", .str "x"] = none := by
  intro file inside root
  constructor
  · let twoIsOne (entries : Entries) : Bool :=
      ((Value.ofEntries entries).at? [.str "two", .str "x"]).any (·.same (.int 1))
    obtain ⟨merged, files, holds⟩ := exists_of_any_toOption
      (p := fun merged => decide (resolvePath merged ["one", "x"] = ["one", "x"]) &&
        twoIsOne merged && (Override.set merged ["one", "x"] (.int 5)).toOption.any (!twoIsOne ·))
      (by decide +kernel : (mergeFiles {} {} (numbered [file])).value.toOption.any _ = true)
    obtain ⟨before, after⟩ := (Bool.and_eq_true _ _).mp holds
    obtain ⟨keys, one⟩ := (Bool.and_eq_true _ _).mp before
    obtain ⟨next, isSet, other⟩ := exists_of_any_toOption after
    refine ⟨merged, next, files, of_decide_eq_true keys, isSet, fun same => ?_⟩
    dsimp only [twoIsOne] at one other
    rw [same, one] at other
    cases other
  · exact ⟨by decide +kernel, _, rfl, rfl⟩

end Config

end MarkupLint
