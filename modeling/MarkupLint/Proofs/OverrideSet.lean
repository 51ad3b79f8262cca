import MarkupLint.Proofs.OverridePath

/-!
Setting a value. A path that leads into a container from inside it is cut short before anything is
written, and every container on the path that was taken is shown wherever it occurs. Main
statements: a value that is set at the end of a way is there, and setting one at a path apart from
the way leaves the way alone.
-/
namespace MarkupLint

namespace Override

open MarkupLint.Text MarkupLint.Value

/-! ### Shortcuts -/

theorem Apart.append {path other : List String} (apart : Apart path other) (more : List String) :
    Apart path (other ++ more) := by
  refine ⟨fun before => ?_, fun before => apart.2 ((List.prefix_append other more).trans before)⟩
  rcases List.prefix_or_prefix_of_prefix before (List.prefix_append other more) with inside | inside
  · exact apart.1 inside
  · exact apart.2 inside

theorem mem_of_lookup_eq_some {α β : Type} [BEq α] [LawfulBEq α] {pairs : List (α × β)} {a : α}
    {b : β} (found : pairs.lookup a = some b) : (a, b) ∈ pairs := by
  obtain ⟨front, back, rfl, -⟩ := List.lookup_eq_some_iff.mp found
  exact List.mem_append_right front (.head back)

/-- A shorter path is made of the parts that are there. -/
theorem forall_mem_shortcut? {p : String → Prop} {around : List (Label × List String)}
    {passed path shorter : List String} {value : Value}
    (found : shortcut? around passed value path = some shorter)
    (known : ∀ x ∈ around, ∀ part ∈ x.2, p part) (before : ∀ part ∈ passed, p part)
    (behind : ∀ part ∈ path, p part) : ∀ part ∈ shorter, p part := by
  fun_induction shortcut? around passed value path with
  | case1 around passed label part rest =>
    obtain ⟨start, inside, rfl⟩ := Option.map_eq_some_iff.mp found
    rw [List.forall_mem_append]
    exact ⟨known _ (mem_of_lookup_eq_some inside), behind⟩
  | case2 around passed label entries part rest ih =>
    obtain ⟨child, -, found⟩ := Option.bind_eq_some_iff.mp found
    obtain ⟨own, others⟩ := List.forall_mem_cons.mp behind
    refine ih child found ?_ ?_ others
    · rw [List.forall_mem_append]
      refine ⟨?_, known⟩
      intro x member
      obtain ⟨l, -, rfl⟩ := List.mem_map.mp member
      exact before
    · rw [List.forall_mem_append]
      exact ⟨before, fun part member => List.mem_singleton.mp member ▸ own⟩
  | case3 => cases found

variable {way : List Label} {entries : Entries} {path : List String} {value : Value}

/-- Off a way, a shortcut leads to a place off the way. -/
theorem apart_shortcut?_of_off {whole : List String} {around : List (Label × List String)}
    {passed other shorter : List String} {value : Value}
    (found : shortcut? around passed value other = some shorter) (apart : Apart whole passed)
    (known : ∀ x ∈ around, x.1 ∉ way → Apart whole x.2) (off : ∀ l ∈ way, l ∉ value.labels) :
    Apart whole shorter := by
  fun_induction shortcut? around passed value other with
  | case1 around passed label part rest =>
    obtain ⟨start, inside, rfl⟩ := Option.map_eq_some_iff.mp found
    apply Apart.append
    exact known _ (mem_of_lookup_eq_some inside) fun member => off label member (.head _)
  | case2 around passed label entries part rest ih =>
    obtain ⟨child, below, found⟩ := Option.bind_eq_some_iff.mp found
    refine ih child found (apart.append _) ?_ ?_
    · intro x member outside
      rcases List.mem_append.mp member with own | old
      · obtain ⟨l, -, rfl⟩ := List.mem_map.mp own
        exact apart
      · exact known x old outside
    · intro l member mentioned
      exact off l member (List.mem_append_right _ (labels_subset_of_get? below mentioned))
  | case3 => cases found

theorem apart_of_ne {part key : String} (path other : List String) (distinct : part ≠ key) :
    Apart (part :: path) (key :: other) := by
  constructor
  · rintro ⟨more, same⟩
    exact distinct (List.cons.inj same).1
  · rintro ⟨more, same⟩
    exact distinct (List.cons.inj same).1.symm

theorem apart_append_iff {front path other : List String} :
    Apart (front ++ path) (front ++ other) ↔ Apart path other := by
  simp [Apart, List.prefix_append_right_inj]

section Shortcut

variable {around : List (Label × List String)} {passed other shorter : List String}
  {label : Option Label}

theorem known_cons {whole : List String} (onWay : ∀ l ∈ label, l ∈ way)
    (known : ∀ x ∈ around, x.1 ∉ way → Apart whole x.2) :
    ∀ x ∈ label.toList.map (·, passed) ++ around, x.1 ∉ way → Apart whole x.2 := by
  intro x member outside
  rcases List.mem_append.mp member with own | old
  · obtain ⟨l, labelled, rfl⟩ := List.mem_map.mp own
    exact absurd (onWay l (Option.mem_toList.mp labelled)) outside
  · exact known x old outside

/-- A path that leaves a way at a key leads off it. -/
theorem Holds.apart_shortcut? {part key : String} {held : Value} {rest : List String}
    (holds : Holds way part held entries) (final : lowered part = part)
    (lower : lowered key = key) (distinct : key ≠ part) (onWay : ∀ l ∈ label, l ∈ way)
    (known : ∀ x ∈ around, x.1 ∉ way → Apart (passed ++ part :: rest) x.2)
    (found : shortcut? around passed (.map label entries) (key :: other) = some shorter) :
    Apart (passed ++ part :: rest) shorter := by
  obtain ⟨child, below, found⟩ := Option.bind_eq_some_iff.mp found
  have elsewhere : Scalar.str (resolveKey entries key) ≠ .str part := by
    intro same
    have spelled := lowered_resolveKey entries lower
    rw [Scalar.str.inj same, final] at spelled
    exact distinct spelled.symm
  apply apart_shortcut?_of_off found _ (known_cons onWay known) (holds.off elsewhere below)
  exact apart_append_iff.mpr (apart_of_ne rest [] distinct.symm)

/-- On a way, a shortcut leads to a place apart from it, if the path it is one for is. -/
theorem Leads.apart_shortcut? (leads : Leads way entries path value)
    (final : ∀ part ∈ path, lowered part = part) (lower : ∀ part ∈ other, lowered part = part)
    (onWay : ∀ l ∈ label, l ∈ way)
    (known : ∀ x ∈ around, x.1 ∉ way → Apart (passed ++ path) x.2) (apart : Apart path other)
    (found : shortcut? around passed (.map label entries) other = some shorter) :
    Apart (passed ++ path) shorter := by
  induction leads generalizing other passed around label with
  | @last entries part value holds plain =>
    cases other with
    | nil => cases found
    | cons key rest =>
      have distinct : key ≠ part := by
        rintro rfl
        exact apart.1 (List.cons_prefix_cons.mpr ⟨rfl, List.nil_prefix⟩)
      exact holds.apart_shortcut? (final part (.head _)) (lower key (.head _)) distinct onWay known
        found
  | @next entries child part rest' inner value holds alone more ih =>
    obtain ⟨own, others⟩ := List.forall_mem_cons.mp final
    cases other with
    | nil => cases found
    | cons key rest =>
      by_cases same : key = part
      · subst same
        obtain ⟨below, there, found⟩ := Option.bind_eq_some_iff.mp found
        rw [holds.spelled, Entries.field?, holds.get?] at there
        cases there
        rw [List.append_cons] at known ⊢
        exact ih others (List.forall_mem_cons.mp lower).2 (fun l labelled => (alone l labelled).1)
          (known_cons onWay known) (apart_cons_iff.mp apart) found
      · exact holds.apart_shortcut? own (lower key (.head _)) same onWay known found

/-- A way leads into no container from inside it. -/
theorem Leads.shortcut?_eq_none (leads : Leads way entries path value) :
    shortcut? around passed (.map label entries) path = none := by
  induction leads generalizing passed around label with
  | @last entries part value holds plain =>
    rw [shortcut?, holds.spelled, Entries.field?, holds.get?, Option.bind_some]
    cases value <;> simp [shortcut?]
  | next holds alone more ih =>
    rw [shortcut?, holds.spelled, Entries.field?, holds.get?, Option.bind_some]
    exact ih

end Shortcut

theorem Leads.direct_eq_self (leads : Leads way entries path value) (fuel : Nat) :
    direct entries fuel path = path := by
  cases fuel with
  | zero => rfl
  | succ fuel =>
    rw [direct, Value.ofEntries, leads.shortcut?_eq_none]

theorem Leads.apart_direct (leads : Leads way entries path value)
    (final : ∀ part ∈ path, lowered part = part) (fuel : Nat) {other : List String}
    (lower : ∀ part ∈ other, lowered part = part) (apart : Apart path other) :
    Apart path (direct entries fuel other) ∧
      ∀ part ∈ direct entries fuel other, lowered part = part := by
  induction fuel generalizing other with
  | zero => exact ⟨apart, lower⟩
  | succ fuel ih =>
    rw [direct]
    split
    next shorter found =>
      have parts := forall_mem_shortcut? (p := fun part => lowered part = part) found
        (fun x member => absurd member List.not_mem_nil)
        (fun part member => absurd member List.not_mem_nil) lower
      have elsewhere : Apart ([] ++ path) shorter :=
        leads.apart_shortcut? final lower (fun l labelled => by cases labelled)
          (fun x member => absurd member List.not_mem_nil) apart found
      exact ih parts elsewhere
    next => exact ⟨apart, lower⟩

/-! ### Setting -/

/-- A value that is set at the end of a way is there. -/
theorem Leads.set_own (leads : Leads way entries path value) {new : Value} (plain : new.labels = [])
    {next : Entries} (done : Override.set entries path new = .ok next) :
    Leads way next path new := by
  have clean : ∀ l ∈ way, l ∉ new.labels := by simp [plain]
  obtain ⟨written, wrote, leads'⟩ := leads.write_own clean
  unfold Override.set at done
  dsimp only at done
  rw [leads.direct_eq_self, wrote] at done
  cases done
  obtain ⟨shown, final, same⟩ := leads'.shareAll _
  exact same plain ▸ final

/-- Setting a value at a path apart from a way leaves the way alone, and the value at its end if
that has no labels. -/
theorem Leads.set_other (leads : Leads way entries path value)
    (final : ∀ part ∈ path, lowered part = part) {other : List String}
    (lower : ∀ part ∈ other, lowered part = part) (apart : Apart path other) {new : Value}
    (plain : new.labels = []) {next : Entries} (done : Override.set entries other new = .ok next) :
    ∃ shown, Leads way next path shown ∧ (value.labels = [] → shown = value) := by
  have clean : ∀ l ∈ way, l ∉ new.labels := by simp [plain]
  obtain ⟨elsewhere, parts⟩ := leads.apart_direct final other.length lower apart
  unfold Override.set at done
  dsimp only at done
  split at done
  next => cases done
  next written wrote =>
    cases done
    exact (leads.write_other final parts elsewhere clean wrote).shareAll _

end Override

end MarkupLint
