import MarkupLint.Proofs.StoreWalk

/-!
A setting changes one mapping of the store. What is written along a path changes the contents of
the last mapping with a label that the path comes to, and of no other (`Override.Stays`,
`Override.Lands`); showing the mappings of the path wherever they occur then gives all occurrences
of that one the new contents. Main statement: a root that shows a store shows the changed store
after a setting, and the setting fails if and only if the walk in the store is stopped
(`Override.set_shows`).
-/
namespace MarkupLint

namespace Value

theorem at?_append (value : Value) (front back : List Scalar) :
    value.at? (front ++ back) = (value.at? front).bind (·.at? back) := by
  induction front generalizing value with
  | nil => rw [at?_nil]; rfl
  | cons key rest ih =>
    cases value with
    | map label entries =>
      rw [List.cons_append, at?_cons, at?_cons]
      cases Entries.get? entries key with
      | none => rfl
      | some child => exact ih child
    | _ => rfl

end Value

namespace Override

open MarkupLint.Text MarkupLint.Value

variable {store : Store} {around : List Label} {entries written : Entries}

/-- Where a walk goes on: in a mapping without a label, in one of the store, or nowhere. -/
theorem onward?_cases (shown : ShowsEntries (Holding store) around entries) (place : Place)
    (key : String) :
    (∃ child, entered? entries key = some (none, child) ∧
      entered? (outlineEntries entries) key = some (none, outlineEntries child) ∧
      onward? store place ((outlineEntries entries).field? key) =
        some ⟨place.1, place.2, outlineEntries child⟩) ∨
    (∃ label child, entries.get? (.str key) = some (.map (some label) child) ∧
      onward? store place ((outlineEntries entries).field? key) =
        some ⟨some label, [], outlineEntries child⟩) ∨
    entered? entries key = none ∧
      (onward? store place ((outlineEntries entries).field? key) = none ∨
        ∃ label, entries.get? (.str key) = some (.again label true)) := by
  simp only [entered?, Entries.field?, get?_outlineEntries]
  cases found : entries.get? (.str key) with
  | none => exact .inl ⟨[], rfl, rfl, rfl⟩
  | some held =>
    cases held with
    | scalar s =>
      cases s with
      | null => exact .inl ⟨[], rfl, rfl, rfl⟩
      | _ => exact .inr (.inr ⟨rfl, .inl rfl⟩)
    | map label child =>
      cases label with
      | none => exact .inl ⟨child, rfl, rfl, rfl⟩
      | some l =>
        refine .inr (.inl ⟨l, child, rfl, ?_⟩)
        have own := (shown.get? found).1 l rfl
        rw [← contents_of_holding own]
        rfl
    | again l mapping =>
      cases mapping with
      | true => exact .inr (.inr ⟨rfl, .inr ⟨l, rfl⟩⟩)
      | false => exact .inr (.inr ⟨rfl, .inl rfl⟩)
    | list label items => cases label <;> exact .inr (.inr ⟨rfl, .inl rfl⟩)
    | _ => exact .inr (.inr ⟨rfl, .inl rfl⟩)

/-! ### What is written -/

/-- There are mappings without labels on the way that keys go. -/
def Bare (entries : Entries) (keys : List Scalar) : Prop :=
  ∀ front, front ≠ [] → front <+: keys → front ≠ keys →
    ∃ child, (Value.map none entries).at? front = some (.map none child)

/-- Something was written without coming to a mapping of the store. -/
structure Stays (store : Store) (around : List Label) (entries written : Entries)
    (path : List String) (keys : List Scalar) (value : Value) : Prop where
  content : write (outlineEntries entries) path value = some (outlineEntries written)
  shown : ShowsEntries (Holding store) around written
  bare : Bare written keys

/-- What a store holds, or the new entries of a mapping. -/
def Either (store : Store) (label : Label) (own : Entries) (l : Label) (held : Value) : Prop :=
  Holding store l held ∨ l = label ∧ held = .ofEntries (outlineEntries own)

/-- Something was written in a mapping of the store, the last one that the keys come to. -/
structure Lands (store : Store) (around : List Label) (entries written : Entries) (label : Label)
    (own : Entries) (front back : List Scalar) : Prop where
  found : (Value.map none written).at? front = some (.map (some label) own)
  kept : outlineEntries written = outlineEntries entries
  shown : ShowsEntries (Either store label own) around written
  mapping : (store (some label)).isMap = true
  bare : Bare own back
  ends : front ≠ [] ∧ back ≠ []

theorem bare_cons {key : Scalar} {child : Entries} {keys : List Scalar}
    (found : entries.get? key = some (.map none child)) (bare : Bare child keys) :
    Bare entries (key :: keys) := by
  intro front nonempty begins proper
  obtain ⟨rest, rfl, further⟩ := (List.prefix_cons_iff.mp begins).resolve_left nonempty
  rw [at?_cons, found, Option.bind_some]
  cases rest with
  | nil => exact ⟨child, at?_nil _⟩
  | cons next rest =>
    exact bare _ (List.cons_ne_nil _ _) further fun same => proper (congrArg (key :: ·) same)

theorem bare_singleton (entries : Entries) (key : Scalar) : Bare entries [key] := by
  intro front nonempty begins proper
  rcases List.prefix_cons_iff.mp begins with rfl | ⟨rest, rfl, further⟩
  · exact absurd rfl nonempty
  · rw [List.prefix_nil.mp further] at proper
    exact absurd rfl proper

/-- The paths to the mappings around a place are still known one mapping further in. -/
theorem lookup_ne_none_of_mem {known : List (Label × List String)} {label : Label}
    {passed : List String} (covered : ∀ l ∈ around, known.lookup l ≠ none) :
    ∀ l ∈ label :: around, ([label].map (·, passed) ++ known).lookup l ≠ none := by
  intro l member
  rw [List.map_singleton, List.singleton_append, List.lookup_cons]
  rcases List.mem_cons.mp member with rfl | old
  · rw [beq_self_eq_true]
    exact Option.some_ne_none _
  · split
    next => exact Option.some_ne_none _
    next => exact covered l old

section Step

variable {key part : String} {child below own : Entries} {path : List String}
  {keys front back : List Scalar} {value : Value} {outer : Option Label} {label : Label}

/-- One key further out, from a mapping without a label. -/
theorem Stays.next {following : String} {rest : List String}
    (stays : Stays store around child below (following :: rest) keys value)
    (shown : ShowsEntries (Holding store) around entries)
    (entered : entered? (outlineEntries entries) (resolveKey entries part) =
      some (none, outlineEntries child)) :
    Stays store around entries
      (entries.set (.str (resolveKey entries part)) (.map none below))
      (part :: following :: rest) (.str (resolveKey entries part) :: keys) value where
  content := by
    rw [write_cons_cons, resolveKey_outlineEntries, entered, Option.bind_some, stays.content,
      outlineEntries_set]
    rfl
  shown := shown.set _ stays.shown.ofEntries
  bare := bare_cons (Entries.get?_set_own _ _ _) stays.bare

/-- Writing inside a mapping of the store does not change what tells of it from outside. -/
theorem outlineEntries_set_of_get? {held anew : Value} {key : Scalar}
    (found : entries.get? key = some held) (same : outline anew = outline held) :
    outlineEntries (entries.set key anew) = outlineEntries entries := by
  rw [outlineEntries_set, same]
  exact Entries.set_eq_self (by rw [get?_outlineEntries, found]; rfl)

/-- One key further out, from a mapping of the store. -/
theorem Stays.lands (stays : Stays store (label :: around) child below path keys value)
    (nonempty : keys ≠ [])
    (shown : ShowsEntries (Holding store) around entries)
    (found : entries.get? (.str key) = some (.map (some label) child)) :
    Lands store around entries (entries.set (.str key) (.map (some label) below)) label below
      [.str key] keys where
  found := by
    rw [at?_cons, Entries.get?_set_own, Option.bind_some, at?_nil]
  kept := outlineEntries_set_of_get? found rfl
  shown := by
    refine (shown.mono (fun _ _ => .inl) (List.Subset.refl _)).set _ ⟨fun l labelled => ?_, ?_⟩
    · cases labelled
      exact .inr ⟨rfl, rfl⟩
    · exact stays.shown.mono (fun _ _ => .inl) (List.Subset.refl _)
  mapping := by
    have own := (shown.get? found).1 label rfl
    rw [Holding] at own
    rw [own]
    rfl
  bare := stays.bare
  ends := ⟨List.cons_ne_nil _ _, nonempty⟩

/-- One key further out, when the last mapping of the store is further in. -/
theorem Lands.next (lands : Lands store (outer.toList ++ around) child below label own front back)
    (shown : ShowsEntries (Holding store) around entries)
    (found : entries.get? (.str key) = some (.map outer child)) :
    Lands store around entries (entries.set (.str key) (.map outer below)) label own
      (.str key :: front) back where
  found := by
    rw [at?_cons, Entries.get?_set_own, Option.bind_some]
    cases front with
    | nil => exact absurd rfl lands.ends.1
    | cons => exact lands.found
  kept := by
    refine outlineEntries_set_of_get? found ?_
    cases outer with
    | none => exact congrArg (Value.map none) lands.kept
    | some l => rfl
  shown := by
    refine (shown.mono (fun _ _ => .inl) (List.Subset.refl _)).set _ ⟨fun l labelled => ?_, ?_⟩
    · rw [lands.kept]
      exact .inl ((shown.get? found).1 l labelled)
    · exact lands.shown
  mapping := lands.mapping
  bare := lands.bare
  ends := ⟨List.cons_ne_nil _ _, lands.ends.2⟩

/-- In a new mapping there is no mapping of the store. -/
theorem Lands.ne_nil (lands : Lands store around entries written label own front back) :
    entries ≠ [] := by
  rintro rfl
  have none : written = [] := by
    have kept := congrArg List.length lands.kept
    rw [outlineEntries_eq_map, List.length_map] at kept
    exact List.eq_nil_of_length_eq_zero kept
  obtain ⟨found⟩ := lands
  cases front with
  | nil => cases found
  | cons key front =>
    rw [none, at?_cons, Entries.get?_nil] at found
    cases found

/-- Writing along a path has set this place: one in the mapping that the walk is in, or one in a
mapping of the store that it has come to. -/
def Sets (store : Store) (around : List Label) (entries written : Entries) (spot : Spot)
    (path : List String) (value : Value) (place : Place) : Prop :=
  let keys := (resolvePath entries path).map Scalar.str
  place = (spot.owner, spot.passed ++ path) ∧
      Stays store around entries written path keys value ∨
    ∃ label own front back, keys = front ++ back ∧ place.1 = some label ∧
      write (contents store (some label)) place.2 value = some (outlineEntries own) ∧
      Lands store around entries written label own front back

section Next

variable {spot : Spot} {following : String} {rest : List String} {place : Place}

/-- Through a mapping without a label, or a new one. -/
theorem Sets.next
    (sets : Sets store around child below ⟨spot.owner, spot.passed ++ [part], outlineEntries child⟩
      (following :: rest) value place)
    (shown : ShowsEntries (Holding store) around entries)
    (entered : entered? entries (resolveKey entries part) = some (none, child))
    (outlined : entered? (outlineEntries entries) (resolveKey entries part) =
      some (none, outlineEntries child)) :
    Sets store around entries (entries.set (.str (resolveKey entries part)) (.map none below)) spot
      (part :: following :: rest) value place := by
  rw [Sets, resolvePath_cons_of_entered? entered, List.map_cons]
  rcases sets with ⟨rfl, stays⟩ | ⟨label, own, front, back, split, owner, content, lands⟩
  · exact .inl ⟨by simp, stays.next shown outlined⟩
  · have found := (entered?_cases entered).resolve_left fun new =>
      lands.ne_nil (Prod.mk.inj new).2
    exact .inr ⟨label, own, _ :: front, back, congrArg (List.cons _) split, owner, content,
      lands.next shown found⟩

/-- Through a mapping of the store. -/
theorem Sets.inside
    (sets : Sets store (label :: around) child below ⟨some label, [], outlineEntries child⟩
      (following :: rest) value place)
    (shown : ShowsEntries (Holding store) around entries)
    (found : entries.get? (.str (resolveKey entries part)) = some (.map (some label) child)) :
    Sets store around entries
      (entries.set (.str (resolveKey entries part)) (.map (some label) below)) spot
      (part :: following :: rest) value place := by
  have entered : entered? entries (resolveKey entries part) = some (some label, child) := by
    rw [entered?, Entries.field?, found]
  rw [Sets, resolvePath_cons_of_entered? entered, List.map_cons]
  rcases sets with ⟨rfl, stays⟩ | ⟨label', own, front, back, split, owner, content, lands⟩
  · have keys : (resolvePath child (following :: rest)).map Scalar.str ≠ [] :=
      List.cons_ne_nil _ _
    refine .inr ⟨label, below, [_], _, rfl, rfl, ?_, stays.lands keys shown found⟩
    rw [contents_of_holding ((shown.get? found).1 label rfl)]
    exact stays.content
  · exact .inr ⟨label', own, _ :: front, back, congrArg (List.cons _) split, owner, content,
      lands.next shown found⟩

end Next

end Step

/-- Writing along a path that leads back into nothing is setting a place of the store. -/
theorem write_cases {known : List (Label × List String)} {passed path : List String}
    {outer : Option Label} {value : Value} (plain : value.labels = []) (spot : Spot)
    (atEntries : spot.entries = outlineEntries entries)
    (shown : ShowsEntries (Holding store) around entries)
    (straight : shortcut? known passed (.map outer entries) path = none)
    (covered : ∀ l ∈ around, (outer.toList.map (·, passed) ++ known).lookup l ≠ none) :
    match slot? store spot path with
    | none => write entries path value = none
    | some place => ∃ written, write entries path value = some written ∧
        Sets store around entries written spot path value place := by
  induction path generalizing entries around known passed outer spot with
  | nil => rfl
  | cons part rest ih =>
    cases rest with
    | nil =>
      have own : Shows (Holding store) around value ∧ outline value = value :=
        shows_of_labels_eq_nil value plain
      refine ⟨_, rfl, .inl ⟨rfl, ?_, shown.set _ own.1, bare_singleton _ _⟩⟩
      rw [outlineEntries_set, own.2, write, resolveKey_outlineEntries]
    | cons next rest =>
      rw [slot?_cons (List.cons_ne_nil next rest), step?, Spot.held?, atEntries,
        resolveKey_outlineEntries]
      rw [shortcut?] at straight
      rcases onward?_cases shown (spot.place part) (resolveKey entries part) with
        ⟨child, entered, outlined, onward⟩ | ⟨label, child, found, onward⟩ | ⟨stopped, onward⟩
      · -- In a mapping without a label the walk is still at the same mapping of the store.
        have inside : ShowsEntries (Holding store) around child ∧
            shortcut? (outer.toList.map (·, passed) ++ known) (passed ++ [part]) (.map none child)
              (next :: rest) = none := by
          rcases entered?_cases entered with new | found
          · cases new
            exact ⟨trivial, rfl⟩
          · rw [Entries.field?, found] at straight
            exact ⟨(shown.get? found).2, straight⟩
        have further := ih ⟨spot.owner, spot.passed ++ [part], outlineEntries child⟩ rfl inside.1
          inside.2 covered
        rw [onward, Option.bind_some, write_cons_cons, entered, Option.bind_some]
        dsimp only [Spot.place]
        split at further
        next => simp only [further, Option.map_none]
        next place _ =>
          obtain ⟨below, wrote, sets⟩ := further
          exact ⟨_, by rw [wrote, Option.map_some], sets.next shown entered outlined⟩
      · -- In another mapping of the store it starts anew.
        have entered : entered? entries (resolveKey entries part) = some (some label, child) := by
          rw [entered?, Entries.field?, found]
        rw [Entries.field?, found] at straight
        have further := ih ⟨some label, [], outlineEntries child⟩ rfl (shown.get? found).2 straight
          (lookup_ne_none_of_mem covered)
        rw [onward, Option.bind_some, write_cons_cons, entered, Option.bind_some]
        split at further
        next => simp only [further, Option.map_none]
        next place _ =>
          obtain ⟨below, wrote, sets⟩ := further
          exact ⟨_, by rw [wrote, Option.map_some], sets.inside shown found⟩
      · rw [write_cons_cons, stopped, Option.bind_none]
        rcases onward with onward | ⟨label, found⟩
        · rw [onward]
          rfl
        · -- A leaf stands for a mapping around it, so the path would lead back.
          obtain ⟨member, -⟩ := shown.get? found
          rw [Entries.field?, found, Option.bind_some, shortcut?, Option.map_eq_none_iff]
            at straight
          exact absurd straight (covered label member)

/-! ### Showing what was written -/

theorem beginnings_cons (key : Scalar) {rest : List Scalar} (more : rest ≠ []) :
    beginnings (key :: rest) = (beginnings rest).map (key :: ·) ++ [[key]] := by
  obtain ⟨next, rest, rfl⟩ := List.exists_cons_of_ne_nil more
  simp [beginnings, List.range_succ_eq_map, List.map_reverse]

theorem beginnings_append {front back : List Scalar} (ends : front ≠ [] ∧ back ≠ []) :
    beginnings (front ++ back) =
      (beginnings back).map (front ++ ·) ++ front :: beginnings front := by
  obtain ⟨nonempty, more⟩ := ends
  induction front with
  | nil => exact absurd rfl nonempty
  | cons key front ih =>
    cases front with
    | nil => exact beginnings_cons key more
    | cons next front =>
      have longer : (next :: front) ++ back ≠ [] := List.cons_ne_nil _ _
      rw [List.cons_append, beginnings_cons key longer, ih (List.cons_ne_nil _ _),
        beginnings_cons key (List.cons_ne_nil next front)]
      simp

theorem ne_nil_of_mem_beginnings {keys before : List Scalar} (member : before ∈ beginnings keys) :
    before ≠ [] := by
  induction keys with
  | nil => cases member
  | cons key rest ih =>
    cases rest with
    | nil => cases member
    | cons next rest =>
      rw [beginnings_cons key (List.cons_ne_nil _ _), List.mem_append, List.mem_map,
        List.mem_singleton] at member
      rcases member with ⟨inner, -, rfl⟩ | rfl <;> exact List.cons_ne_nil _ _

/-- A mapping without a label is shown as it is. -/
theorem share_eq_self {place : List Scalar} {child : Entries}
    (found : (Value.map none entries).at? place = some (.map none child)) :
    Value.share entries place = entries := by
  rw [Value.share, found]

theorem Bare.share_eq_self {keys : List Scalar} (bare : Bare entries keys) :
    ∀ place ∈ beginnings keys, Value.share entries place = entries := by
  intro place member
  obtain ⟨begins, proper⟩ := mem_beginnings member
  obtain ⟨child, found⟩ := bare place (ne_nil_of_mem_beginnings member) begins proper
  exact Override.share_eq_self found

theorem sorted_holding (store : Store) : Sorted (Holding store) := by
  rintro l one other rfl rfl
  rfl

/-- Showing a mapping wherever it occurs changes nothing in the store. -/
theorem ShowsRoot.share {root : Entries} (shown : ShowsRoot store root) (place : List Scalar) :
    ShowsRoot store (Value.share root place) := by
  cases found : (Value.map none root).at? place with
  | none => rw [Value.share, found]; exact shown
  | some value =>
    cases value with
    | map label own =>
      cases label with
      | none => rwa [share_eq_self found]
      | some l =>
        obtain ⟨parts, same⟩ := shown.parts.share (sorted_holding store) found
        refine ⟨?_, parts.mono (fun _ _ settled => settled.1) (List.Subset.refl _)⟩
        rw [same, shown.whole]
    | _ => rw [Value.share, found]; exact shown

theorem ShowsRoot.shareAll {root : Entries} (shown : ShowsRoot store root)
    (places : List (List Scalar)) : ShowsRoot store (places.foldl Value.share root) := by
  induction places generalizing root with
  | nil => exact shown
  | cons place rest ih => exact ih (shown.share place)

theorem sorted_either {label : Label} (own : Entries)
    (mapping : (store (some label)).isMap = true) : Sorted (Either store label own) := by
  rintro l one other (rfl | ⟨rfl, rfl⟩) (held | ⟨same, rfl⟩)
  · rw [← held]
  · rw [same, mapping]
    rfl
  · rw [← held, mapping]
    rfl
  · rfl

section Shown

variable {root : Entries} {value : Value} {label : Label} {own : Entries}
  {front back : List Scalar}

/-- What was written in the root itself is shown. -/
theorem Stays.showsRoot {path : List String} {keys : List Scalar}
    (stays : Stays store [] root written path keys value) :
    ShowsRoot (Function.update store none (.ofEntries (outlineEntries written)))
      ((beginnings keys).foldl Value.share written) := by
  rw [foldl_share_eq_self stays.bare.share_eq_self]
  refine ⟨Function.update_self _ _ _, stays.shown.mono (fun l held own => ?_) (List.Subset.refl _)⟩
  exact (Function.update_of_ne (Option.some_ne_none l) _ _).trans own

/-- Once the last mapping of the store on the path has been shown wherever it occurs, all shows
what was written. -/
theorem Lands.showsRoot (lands : Lands store [] root written label own front back)
    (shown : ShowsRoot store root) :
    ShowsRoot (Function.update store (some label) (.ofEntries (outlineEntries own)))
      ((beginnings (front ++ back)).foldl Value.share written) := by
  have further : ∀ place ∈ (beginnings back).map (front ++ ·),
      Value.share written place = written := by
    intro place member
    obtain ⟨inner, listed, rfl⟩ := List.mem_map.mp member
    obtain ⟨begins, proper⟩ := mem_beginnings listed
    have nonempty := ne_nil_of_mem_beginnings listed
    obtain ⟨child, found⟩ := lands.bare inner nonempty begins proper
    apply share_eq_self
    rw [at?_append, lands.found, Option.bind_some, ← found]
    cases inner with
    | nil => exact absurd rfl nonempty
    | cons => rfl
  rw [beginnings_append lands.ends, List.foldl_append, foldl_share_eq_self further,
    List.foldl_cons]
  apply ShowsRoot.shareAll
  obtain ⟨parts, same⟩ := lands.shown.share (sorted_either own lands.mapping) lands.found
  constructor
  · rw [Function.update_of_ne (Option.some_ne_none label).symm, same, lands.kept, shown.whole]
  · refine parts.mono (fun l held settled => ?_) (List.Subset.refl _)
    rw [Holding]
    by_cases here : l = label
    · subst here
      rw [Function.update_self, settled.2 rfl]
    · rw [Function.update_of_ne fun equal => here (Option.some.inj equal)]
      exact settled.1.resolve_right fun new => here new.1

end Shown

/-- A setting fails if the walk in the store is stopped. Otherwise it sets the place in the store
that its path leads to, and afterwards the root shows this. -/
theorem set_shows {root : Entries} (shown : ShowsRoot store root) (path : List String)
    {value : Value} (plain : value.labels = []) :
    match slot? store (atRoot store) path with
    | none => Override.set root path value = .error (.blockedOverride path)
    | some place => ∃ written next,
        write (contents store place.1) place.2 value = some written ∧
        Override.set root path value = .ok next ∧
        ShowsRoot (Function.update store place.1 (.ofEntries written)) next := by
  cases path with
  | nil => rfl
  | cons part rest =>
    generalize isPath : part :: rest = path
    have nonempty : path ≠ [] := isPath ▸ List.cons_ne_nil _ _
    obtain ⟨-, straight, -⟩ := direct_spec root nonempty path.length (Nat.le_refl _)
    have cases := write_cases plain (atRoot store) shown.contents shown.parts straight nofun
    rw [slot?_direct shown] at cases
    unfold Override.set
    dsimp only
    split at cases
    next =>
      rw [cases]
    next place _ =>
      obtain ⟨written, wrote, sets⟩ := cases
      rw [wrote]
      rcases sets with ⟨rfl, stays⟩ | ⟨label, own, front, back, keys, owner, content, lands⟩
      · refine ⟨outlineEntries written, _, ?_, rfl, stays.showsRoot⟩
        rw [atRoot, shown.contents]
        exact stays.content
      · obtain ⟨_, rel⟩ := place
        dsimp only at owner content
        rw [owner, keys]
        exact ⟨outlineEntries own, _, content, rfl, lands.showsRoot shown⟩

end Override

end MarkupLint
