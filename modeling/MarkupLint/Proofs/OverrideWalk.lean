import MarkupLint.Proofs.OverrideSet

/-!
The walk of a setting. It goes key by key into mappings (`Override.enter?`), makes one of what is
missing or null, and comes back to a mapping that it is inside when a leaf stands for that one;
any other value stops it. A shorter path that cuts such a way back off leads to the same mapping
(`Override.Stands.walk?_shortcut?`). Main statements: the path that is taken cannot be written if
and only if the walk of the whole path is stopped (`Override.write_direct_eq_none_iff`), and a walk
that is stopped has changed nothing (`Override.setInPlace_eq`).
-/
namespace MarkupLint

namespace Override

open MarkupLint.Value

/-- The mappings that a walk is inside, the innermost first. -/
abbrev Around := List (Option Label × Entries)

/-- Back to the mapping of a label, if the walk is inside it. -/
def back? : Around → Label → Option Around
  | [], _ => none
  | (own, entries) :: outer, label =>
      if own = some label then some ((own, entries) :: outer) else back? outer label

/-- On into what a key holds: into a mapping, a new one where there is none, or back. -/
def into? (around : Around) : Option Value → Option Around
  | none | some .null => some ((none, []) :: around)
  | some (.map label entries) => some ((label, entries) :: around)
  | some (.again label true) => back? around label
  | some _ => none

def enter? : Around → String → Option Around
  | [], _ => none
  | (own, entries) :: outer, part =>
      into? ((own, entries) :: outer) (entries.field? (resolveKey entries part))

/-- Where the parts of a path lead, unless a value stops the walk. -/
def walk? (around : Around) (path : List String) : Option Around :=
  path.foldlM enter? around

/-- The labels of the mappings that a walk comes to, one after another. -/
def met : Around → List String → List Label
  | _, [] => []
  | around, part :: rest =>
      match enter? around part with
      | none => []
      | some inside => (inside.head?.bind (·.1)).toList ++ met inside rest

/-- A setting as it is carried out: mappings are made where the walk needs them, and what has been
made stays when the walk is stopped. The second component tells whether the value was set. -/
def setInPlace : Entries → List String → Value → Entries × Bool
  | entries, [], _ => (entries, false)
  | entries, [part], value => (entries.set (.str (resolveKey entries part)) value, true)
  | entries, part :: next :: rest, value =>
      let key := resolveKey entries part
      let made :=
        match entries.field? key with
        | none | some .null => entries.set (.str key) (.map none [])
        | some _ => entries
      match made.field? key with
      | some (.map label child) =>
          let (below, done) := setInPlace child (next :: rest) value
          (made.set (.str key) (.map label below), done)
      | _ => (made, false)

/-! ### Walking -/

theorem walk?_append (around : Around) (front back : List String) :
    walk? around (front ++ back) = (walk? around front).bind (walk? · back) :=
  List.foldlM_append

theorem walk?_cons (around : Around) (part : String) (rest : List String) :
    walk? around (part :: rest) = (enter? around part).bind (walk? · rest) :=
  List.foldlM_cons

theorem exists_of_back? {around inside : Around} {label : Label}
    (found : back? around label = some inside) :
    ∃ entries outer, inside = (some label, entries) :: outer ∧ (some label, entries) ∈ around := by
  induction around with
  | nil => cases found
  | cons mapping outer ih =>
    obtain ⟨own, entries⟩ := mapping
    rw [back?] at found
    split at found
    next same =>
      cases found
      exact ⟨entries, outer, by rw [same], same ▸ .head outer⟩
    next =>
      obtain ⟨entries, outer', rfl, member⟩ := ih found
      exact ⟨entries, outer', rfl, .tail _ member⟩

/-- In a new mapping nothing stops a walk. -/
theorem walk?_new (outer : Around) (path : List String) :
    ∃ inside, walk? ((none, []) :: outer) path = some inside := by
  induction path generalizing outer with
  | nil => exact ⟨_, rfl⟩
  | cons part rest ih => exact ih _

theorem write_new (part : String) (rest : List String) (value : Value) :
    ∃ written, write [] (part :: rest) value = some written := by
  induction rest generalizing part with
  | nil => exact ⟨_, rfl⟩
  | cons next rest ih =>
    obtain ⟨below, done⟩ := ih next
    rw [write_cons_cons, entered?, Entries.field?, Entries.get?_nil, Option.bind_some, done]
    exact ⟨_, rfl⟩

/-- What holds where a walk has come to a value: the known paths lead to the mappings around it,
and are shorter than the one that was gone. -/
structure Stands (root : Entries) (outer : Around) (known : List (Label × List String))
    (passed : List String) (value : Value) : Prop where
  traced : ∀ label,
    (known.lookup label).map (walk? [(none, root)]) = (back? outer label).map some
  here : walk? [(none, root)] passed = into? outer (some value)
  shorter : ∀ x ∈ known, x.2.length < passed.length

theorem stands_start (root : Entries) : Stands root [] [] [] (.ofEntries root) where
  traced _ := rfl
  here := rfl
  shorter _ member := absurd member List.not_mem_nil

namespace Stands

variable {root entries : Entries} {outer : Around} {known : List (Label × List String)}
  {passed path : List String} {part : String} {label : Option Label} {value child : Value}

/-- One key further in. -/
theorem next (stands : Stands root outer known passed (.map label entries))
    (found : entries.field? (resolveKey entries part) = some child) :
    Stands root ((label, entries) :: outer) (label.toList.map (·, passed) ++ known)
      (passed ++ [part]) child := by
  refine ⟨?_, ?_, ?_⟩
  · intro other
    cases label with
    | none => exact stands.traced other
    | some own =>
      rw [back?]
      by_cases same : own = other
      · subst same
        rw [if_pos rfl]
        simp [stands.here, into?]
      · have differs : (other == own) = false := beq_eq_false_iff_ne.mpr (Ne.symm same)
        rw [if_neg fun equal => same (Option.some.inj equal)]
        simpa [List.lookup_cons, differs] using stands.traced other
  · rw [walk?_append, stands.here, into?, Option.bind_some, walk?_cons, enter?, found]
    exact Option.bind_fun_some _
  · intro x member
    rw [List.length_append]
    rcases List.mem_append.mp member with own | old
    · obtain ⟨l, -, rfl⟩ := List.mem_map.mp own
      exact Nat.lt_succ_self _
    · exact Nat.lt_succ_of_lt (stands.shorter x old)

/-- A shorter path is one to the same place. -/
theorem walk?_shortcut? {shorter : List String} (stands : Stands root outer known passed value)
    (found : shortcut? known passed value path = some shorter) :
    shorter ≠ [] ∧ shorter.length < passed.length + path.length ∧
      walk? [(none, root)] shorter.dropLast = walk? [(none, root)] (passed ++ path).dropLast := by
  fun_induction shortcut? known passed value path generalizing outer with
  | case1 known passed own part rest =>
    obtain ⟨start, there, rfl⟩ := Option.map_eq_some_iff.mp found
    have traced := stands.traced own
    rw [there, Option.map_some, eq_comm, Option.map_eq_some_iff] at traced
    obtain ⟨inside, isBack, leads⟩ := traced
    have less : start.length < passed.length := stands.shorter _ (mem_of_lookup_eq_some there)
    refine ⟨by simp, by rw [List.length_append]; omega, ?_⟩
    rw [List.dropLast_append_of_ne_nil (List.cons_ne_nil _ _),
      List.dropLast_append_of_ne_nil (List.cons_ne_nil _ _), walk?_append, walk?_append,
      stands.here, into?, isBack, ← leads]
  | case2 known passed own entries part rest ih =>
    obtain ⟨child, below, found⟩ := Option.bind_eq_some_iff.mp found
    have further := ih child (stands.next below) found
    rw [List.append_assoc, List.singleton_append, List.length_append] at further
    refine ⟨further.1, ?_, further.2.2⟩
    have less := further.2.1
    rw [List.length_cons]
    rw [List.length_singleton] at less
    omega
  | case3 => cases found

/-- On a path that leads back into nothing, what is stopped is what cannot be written. -/
theorem write_eq_none_iff (stands : Stands root outer known passed (.map label entries))
    (nonempty : path ≠ []) (straight : shortcut? known passed (.map label entries) path = none)
    (new : Value) :
    write entries path new = none ↔ walk? ((label, entries) :: outer) path.dropLast = none := by
  induction path generalizing outer known passed label entries with
  | nil => exact absurd rfl nonempty
  | cons part rest ih =>
    cases rest with
    | nil => exact iff_of_false (Option.some_ne_none _) (Option.some_ne_none _)
    | cons next rest =>
      obtain ⟨written, done⟩ := write_new next rest new
      obtain ⟨inside, gone⟩ := walk?_new ((label, entries) :: outer) (next :: rest).dropLast
      rw [List.dropLast_cons_of_ne_nil (List.cons_ne_nil _ _), walk?_cons, enter?, write_cons_cons,
        entered?]
      cases found : entries.field? (resolveKey entries part) with
      | none => simp [into?, done, gone]
      | some held =>
        have further := stands.next found
        rw [shortcut?, found, Option.bind_some] at straight
        cases held with
        | map inner child =>
          have below := ih further (List.cons_ne_nil _ _) straight
          simpa [into?] using below
        | again own mapping =>
          cases mapping with
          | false => simp [into?]
          | true =>
            rw [shortcut?, Option.map_eq_none_iff] at straight
            have traced := further.traced own
            rw [straight, Option.map_none, eq_comm, Option.map_eq_none_iff] at traced
            simp [into?, traced]
        | scalar s =>
          cases s with
          | null => simp [into?, done, gone]
          | _ => simp [into?]
        | _ => simp [into?]

/-- A path that comes to no mapping twice leads back into nothing. -/
theorem shortcut?_eq_none_of_nodup (stands : Stands root outer known passed (.map label entries))
    (seen : List Label) (inside : ∀ mapping ∈ (label, entries) :: outer, ∀ l ∈ mapping.1, l ∈ seen)
    (once : (seen ++ met ((label, entries) :: outer) path.dropLast).Nodup) :
    shortcut? known passed (.map label entries) path = none := by
  induction path generalizing outer known passed label entries seen with
  | nil => rfl
  | cons part rest ih =>
    rw [shortcut?]
    cases found : entries.field? (resolveKey entries part) with
    | none => rfl
    | some held =>
      rw [Option.bind_some]
      have further := stands.next found
      cases rest with
      | nil => cases held <;> simp [shortcut?]
      | cons next rest =>
        rw [List.dropLast_cons_of_ne_nil (List.cons_ne_nil _ _), met, enter?, found] at once
        cases held with
        | map inner child =>
          refine ih further (seen ++ inner.toList) ?_ ?_
          · intro mapping member l labelled
            rw [List.mem_append]
            rcases List.mem_cons.mp member with rfl | old
            · exact .inr (Option.mem_toList.mpr labelled)
            · exact .inl (inside mapping old l labelled)
          · rw [List.append_assoc]
            exact once
        | again own mapping =>
          cases mapping with
          | false => rfl
          | true =>
            rw [shortcut?, Option.map_eq_none_iff]
            have traced := further.traced own
            cases isBack : back? ((label, entries) :: outer) own with
            | none =>
              rw [isBack] at traced
              exact Option.map_eq_none_iff.mp traced
            | some reached =>
              -- the label of a mapping that the walk comes back to has been seen before
              obtain ⟨own', outer', rfl, member⟩ := exists_of_back? isBack
              rw [into?, isBack] at once
              exact absurd rfl ((List.nodup_append.mp once).2.2 own (inside _ member own rfl) own
                (.head _))
        | _ => simp [shortcut?]

end Stands

variable {root : Entries} {path : List String}

/-- The path that is taken leads back into nothing, and to the same mapping. -/
theorem direct_spec (root : Entries) (nonempty : path ≠ []) (fuel : Nat)
    (enough : path.length ≤ fuel) :
    direct root fuel path ≠ [] ∧
      shortcut? [] [] (.ofEntries root) (direct root fuel path) = none ∧
      walk? [(none, root)] (direct root fuel path).dropLast =
        walk? [(none, root)] path.dropLast := by
  induction fuel generalizing path with
  | zero => exact absurd (List.eq_nil_of_length_eq_zero (Nat.le_zero.mp enough)) nonempty
  | succ fuel ih =>
    rw [direct]
    split
    next shorter found =>
      obtain ⟨nonempty', less, same⟩ := (stands_start root).walk?_shortcut? found
      rw [List.length_nil, Nat.zero_add] at less
      rw [List.nil_append] at same
      obtain ⟨further, straight, leads⟩ := ih nonempty' (by omega)
      exact ⟨further, straight, leads.trans same⟩
    next straight => exact ⟨nonempty, straight, rfl⟩

theorem direct_eq_self_of_nodup (once : (met [(none, root)] path.dropLast).Nodup) (fuel : Nat) :
    direct root fuel path = path := by
  cases fuel with
  | zero => rfl
  | succ fuel =>
    have straight : shortcut? [] [] (.ofEntries root) path = none := by
      refine (stands_start root).shortcut?_eq_none_of_nodup [] ?_ once
      intro mapping member l labelled
      rw [List.mem_singleton.mp member] at labelled
      cases labelled
    rw [direct, straight]

/-- The path that is taken can be written unless the walk of the whole path is stopped. -/
theorem write_direct_eq_none_iff (root : Entries) (nonempty : path ≠ []) (value : Value) :
    write root (direct root path.length path) value = none ↔
      walk? [(none, root)] path.dropLast = none := by
  obtain ⟨nonempty', straight, same⟩ := direct_spec root nonempty path.length (Nat.le_refl _)
  rw [← same]
  exact (stands_start root).write_eq_none_iff nonempty' straight value

/-- A walk that is stopped has changed nothing: below a mapping that it has made nothing stops
it. -/
theorem setInPlace_eq (entries : Entries) {path : List String} (nonempty : path ≠ [])
    (value : Value) :
    setInPlace entries path value =
      match write entries path value with
      | some written => (written, true)
      | none => (entries, false) := by
  induction path generalizing entries with
  | nil => exact absurd rfl nonempty
  | cons part rest ih =>
    cases rest with
    | nil => rfl
    | cons next rest =>
      let key := Scalar.str (resolveKey entries part)
      have self : key.same key = true := (Scalar.same_str_iff _ _).mpr rfl
      obtain ⟨written, done⟩ := write_new next rest value
      have inNew := ih [] (List.cons_ne_nil _ _)
      rw [done] at inNew
      have made : (entries.set key (.map none [])).get? key = some (.map none []) := by
        rw [Entries.get?_set, if_pos self]
      have again := Entries.set_set entries key (.map none []) (.map none written) self
      rw [setInPlace, write_cons_cons, entered?]
      simp only [Entries.field?]
      cases found : entries.get? key with
      | none => simp only [key, made, inNew, again, done, Option.bind_some, Option.map_some]
      | some held =>
        cases held with
        | scalar s =>
          cases s with
          | null => simp only [key, made, inNew, again, done, Option.bind_some, Option.map_some]
          | _ => simp only [key, found, Option.bind_none]
        | map label child =>
          have same := Entries.set_eq_self found
          have below := ih child (List.cons_ne_nil _ _)
          simp only [key, found, below, Option.bind_some]
          cases write child (next :: rest) value with
          | none => simp only [same, Option.map_none, key]
          | some below => rfl
        | _ => simp only [key, found, Option.bind_none]

end Override

end MarkupLint
