import MarkupLint.Proofs.Keys
import MarkupLint.Value.Merge

/-!
What is found in layered mappings. Layers are laid over each other key by key; told path by path
(`Value.LaidOver`), a path at which the layer holds something gives that, laid over what was there,
and a path at which it holds nothing gives what was there, unless something in the layer stands in
its way. Main statement: this is what laying a mapping over another makes of them. Leaves that
stand for a container around them count as values without keys.
-/
namespace MarkupLint.Value

mutual

/-- Whether no mapping that is reached through mappings holds a key twice. -/
def keysDiffer : Value → Bool
  | .map _ entries => entryKeysDiffer entries
  | _ => true

def entryKeysDiffer : List (Scalar × Value) → Bool
  | [] => true
  | (key, value) :: rest => !Entries.has rest key && keysDiffer value && entryKeysDiffer rest

end

theorem entryKeysDiffer_cons {key : Scalar} {value : Value} {rest : Entries} :
    entryKeysDiffer ((key, value) :: rest) = true ↔
      rest.get? key = none ∧ value.keysDiffer = true ∧ entryKeysDiffer rest = true := by
  rw [entryKeysDiffer, Bool.and_eq_true, Bool.and_eq_true, Bool.not_eq_true', Entries.has,
    Option.isSome_eq_false_iff, Option.isNone_iff_eq_none, and_assoc]

theorem entryKeysDiffer_iff {entries : Entries} :
    entryKeysDiffer entries = true ↔
      Scalar.AllDiffer (entries.map (·.1)) ∧ ∀ entry ∈ entries, entry.2.keysDiffer = true := by
  induction entries with
  | nil => simp [entryKeysDiffer, Scalar.allDiffer_nil]
  | cons entry rest ih =>
    rw [entryKeysDiffer_cons, ih, Entries.get?_eq_none_iff, List.map_cons, Scalar.allDiffer_cons,
      List.forall_mem_map, List.forall_mem_cons, and_assoc,
      and_left_comm (a := entry.2.keysDiffer = true)]
    simp only [Scalar.same_comm _ entry.1]

theorem keysDiffer_of_get? {entries : Entries} {key : Scalar} {value : Value}
    (differ : entryKeysDiffer entries = true) (found : entries.get? key = some value) :
    value.keysDiffer = true := by
  induction entries with
  | nil => cases found
  | cons entry rest ih =>
    obtain ⟨-, own, others⟩ := entryKeysDiffer_cons.mp differ
    rw [Entries.get?_cons] at found
    split at found
    next => exact Option.some.inj found ▸ own
    next => exact ih others found

/-- Laying a mapping whose keys differ sets each of its keys once. -/
theorem get?_mergeEntries {incoming : Entries} (differ : entryKeysDiffer incoming = true)
    (base : Entries) (key : Scalar) :
    (mergeEntries base incoming).get? key =
      match incoming.get? key with
      | some value => some (mergeOver (base.get? key) value)
      | none => base.get? key := by
  induction incoming generalizing base with
  | nil => rfl
  | cons entry rest ih =>
    obtain ⟨own, value⟩ := entry
    obtain ⟨once, -, others⟩ := entryKeysDiffer_cons.mp differ
    rw [mergeEntries, ih others, Entries.get?_set, Entries.get?_cons]
    cases same : own.same key with
    | true =>
      rw [← Entries.get?_congr same, ← Entries.get?_congr same, once]
      rfl
    | false => rfl

/-- The keys of the lower mapping stay in front, and new ones follow in the order of the upper. -/
theorem keys_mergeEntries {incoming : Entries} (differ : entryKeysDiffer incoming = true)
    (base : Entries) :
    (mergeEntries base incoming).map (·.1) =
      base.map (·.1) ++ (incoming.map (·.1)).filter fun key => !base.has key := by
  induction incoming generalizing base with
  | nil => exact (List.append_nil _).symm
  | cons entry rest ih =>
    obtain ⟨own, value⟩ := entry
    obtain ⟨once, -, others⟩ := entryKeysDiffer_cons.mp differ
    -- what is set first is no key of the rest, so it makes no difference to which of these are new
    have apart : ∀ key ∈ rest.map (·.1), own.same key = false := by
      rw [List.forall_mem_map]
      intro other there
      rw [Scalar.same_comm]
      exact Entries.get?_eq_none_iff.mp once other there
    have news : (rest.map (·.1)).filter (fun key =>
          !(base.set own (mergeOver (base.get? own) value)).has key) =
        (rest.map (·.1)).filter fun key => !base.has key := by
      apply List.filter_congr
      intro key member
      rw [Entries.has, Entries.get?_set, apart key member]
      rfl
    rw [mergeEntries, ih others, news, Entries.keys_set, List.map_cons, List.filter_cons]
    cases base.has own <;> simp

/-! ### Paths -/

/-- A value of the layer that is no mapping stands in the way of a path. -/
def Blocks (layer : Value) (path : List Scalar) : Prop :=
  ∃ front value, front ≠ [] ∧ front <+: path ∧ layer.at? front = some value ∧
    value.entries? = none

theorem blocks_cons_iff {label : Option Label} {entries : Entries} {key : Scalar} {value : Value}
    (found : entries.get? key = some value) (path : List Scalar) :
    Blocks (.map label entries) (key :: path) ↔ value.entries? = none ∨ Blocks value path := by
  constructor
  · rintro ⟨front, held, nonempty, before, there, plain⟩
    cases front with
    | nil => exact absurd rfl nonempty
    | cons first front =>
      obtain ⟨rfl, further⟩ := List.cons_prefix_cons.mp before
      rw [at?_cons, found, Option.bind_some] at there
      cases front with
      | nil =>
        rw [at?_nil] at there
        exact .inl (Option.some.inj there ▸ plain)
      | cons next front =>
        exact .inr ⟨_, held, List.cons_ne_nil _ _, further, there, plain⟩
  · rintro (plain | ⟨front, held, nonempty, before, there, plain⟩)
    · exact ⟨[key], value, List.cons_ne_nil _ _, List.cons_prefix_cons.mpr ⟨rfl, List.nil_prefix⟩,
        by rw [at?_cons, found, Option.bind_some, at?_nil], plain⟩
    · exact ⟨key :: front, held, List.cons_ne_nil _ _, List.cons_prefix_cons.mpr ⟨rfl, before⟩,
        by rw [at?_cons, found, Option.bind_some, there], plain⟩

theorem not_blocks_of_get? {label : Option Label} {entries : Entries} {key : Scalar}
    (missing : entries.get? key = none) (path : List Scalar) :
    ¬Blocks (.map label entries) (key :: path) := by
  rintro ⟨front, held, nonempty, before, there, -⟩
  cases front with
  | nil => exact nonempty rfl
  | cons first front =>
    obtain ⟨rfl, -⟩ := List.cons_prefix_cons.mp before
    rw [at?_cons, missing] at there
    cases there

/-- What meets nothing of its kind takes the place of what was there. -/
theorem mergeOver_eq_self {current : Option Value} {incoming : Value}
    (maps : ∀ l below m above, current = some (.map l below) → incoming ≠ .map m above)
    (lists : ∀ l below m above, current = some (.list l below) → incoming ≠ .list m above) :
    mergeOver current incoming = incoming := by
  cases incoming with
  | map m above =>
    rw [mergeOver]
    exact fun l below met => maps l below m above met rfl
  | list m above =>
    rw [mergeOver]
    exact fun l below met => lists l below m above met rfl
  | _ => rfl

theorem mergeOver_map_of_ne {current : Option Value} (label : Option Label) (incoming : Entries)
    (other : ∀ l below, current ≠ some (.map l below)) :
    mergeOver current (.map label incoming) = .map label incoming :=
  mergeOver_eq_self (fun l below _ _ met => absurd met (other l below)) nofun

theorem entries?_mergeOver {incoming : Value} (plain : incoming.entries? = none)
    (current : Option Value) : (mergeOver current incoming).entries? = none := by
  cases incoming with
  | map m above => cases plain
  | list m above =>
    rw [mergeOver.eq_def]
    dsimp only
    split <;> rfl
  | _ => rfl

/-- At a path, what the layer holds there is laid over what was there; where it holds nothing, all
is as before unless a value of the layer stands in the way. -/
theorem at?_mergeEntries {incoming : Entries} (differ : entryKeysDiffer incoming = true)
    (base : Entries) (own label : Option Label) (key : Scalar) (path : List Scalar) :
    (∀ value, (Value.map label incoming).at? (key :: path) = some value →
      (Value.map none (mergeEntries base incoming)).at? (key :: path) =
        some (mergeOver ((Value.map own base).at? (key :: path)) value)) ∧
    ((Value.map label incoming).at? (key :: path) = none →
      (Blocks (.map label incoming) (key :: path) →
        (Value.map none (mergeEntries base incoming)).at? (key :: path) = none) ∧
      (¬Blocks (.map label incoming) (key :: path) →
        (Value.map none (mergeEntries base incoming)).at? (key :: path) =
          (Value.map own base).at? (key :: path))) := by
  induction path generalizing incoming base own label key with
  | nil =>
    simp only [at?_cons, get?_mergeEntries differ, at?_nil]
    cases found : incoming.get? key with
    | none => exact ⟨nofun, fun _ => ⟨fun blocks => absurd blocks (not_blocks_of_get? found []),
        fun _ => rfl⟩⟩
    | some value =>
      refine ⟨fun _ same => ?_, nofun⟩
      cases same
      cases base.get? key <;> rfl
  | cons next rest ih =>
    rw [at?_cons, at?_cons, at?_cons, get?_mergeEntries differ]
    cases found : incoming.get? key with
    | none =>
      exact ⟨nofun, fun _ => ⟨fun blocks => absurd blocks (not_blocks_of_get? found _),
        fun _ => rfl⟩⟩
    | some value =>
      rw [blocks_cons_iff found]
      dsimp only
      rw [Option.bind_some, Option.bind_some]
      cases shape : value.entries? with
      | none =>
        -- the layer ends here, and so does what is found
        rw [at?_cons_eq_none shape, at?_cons_eq_none (entries?_mergeOver shape _)]
        exact ⟨nofun, fun _ => ⟨fun _ => rfl, fun free => absurd (.inl rfl) free⟩⟩
      | some above =>
        obtain ⟨m, rfl⟩ := exists_map_of_entries? shape
        have blocked : (some above = none ∨ Blocks (.map m above) (next :: rest)) ↔
            Blocks (.map m above) (next :: rest) := or_iff_right nofun
        rw [blocked]
        by_cases met : ∃ l below, base.get? key = some (.map l below)
        · obtain ⟨l, below, met⟩ := met
          rw [met, Option.bind_some, mergeOver]
          exact ih (keysDiffer_of_get? differ found) below l m next
        · rw [mergeOver_map_of_ne m above fun l below there => met ⟨l, below, there⟩]
          have nothing : ((base.get? key).bind fun child => child.at? (next :: rest)) = none := by
            rw [Option.bind_eq_none_iff]
            intro child there
            cases kind : child.entries? with
            | none => exact at?_cons_eq_none kind _ _
            | some below =>
              obtain ⟨l, rfl⟩ := exists_map_of_entries? kind
              exact absurd ⟨l, below, there⟩ met
          rw [nothing]
          refine ⟨fun held there => ?_, fun missing => ⟨fun _ => missing, fun _ => missing⟩⟩
          have alone : mergeOver none held = held := mergeOver_eq_self nofun nofun
          rw [there, alone]

/-- What is at each path once a mapping has been laid over another. -/
structure LaidOver (base layer merged : Value) : Prop where
  /-- Mappings that meet are laid over each other. -/
  mappings : ∀ path ≠ [], ∀ l below m above, base.at? path = some (.map l below) →
    layer.at? path = some (.map m above) →
      ∃ inner, mergeLayer below (.map m above) = .ok inner ∧
        merged.at? path = some (.map none inner)
  /-- Lists that meet are merged. -/
  lists : ∀ path ≠ [], ∀ l below m above, base.at? path = some (.list l below) →
    layer.at? path = some (.list m above) →
      merged.at? path = some (.list none (mergeItems below above))
  /-- Anything else takes the place of what was there. -/
  replaced : ∀ path ≠ [], ∀ value, layer.at? path = some value →
    (∀ l below m above, base.at? path = some (.map l below) → value ≠ .map m above) →
    (∀ l below m above, base.at? path = some (.list l below) → value ≠ .list m above) →
      merged.at? path = some value
  /-- Nothing is left behind a value of the layer that is no mapping. -/
  blocked : ∀ path ≠ [], layer.at? path = none → Blocks layer path → merged.at? path = none
  /-- All else is as it was. -/
  kept : ∀ path ≠ [], layer.at? path = none → ¬Blocks layer path →
    merged.at? path = base.at? path
  /-- Where mappings meet, the keys of the lower one come first, and then the new ones of the
  upper. -/
  keys : ∀ path l below m above, base.at? path = some (.map l below) →
    layer.at? path = some (.map m above) →
      ∃ own held, merged.at? path = some (.map own held) ∧
        held.map (·.1) =
          below.map (·.1) ++ (above.map (·.1)).filter fun key => !Entries.has below key

theorem mergeLayer_map (base : Entries) (label : Option Label) (incoming : Entries) :
    mergeLayer base (.map label incoming) = .ok (mergeEntries base incoming) := by
  cases incoming <;> rfl

theorem entryKeysDiffer_of_at? {value : Value} {path : List Scalar} {m : Option Label}
    {above : Entries} (differ : value.keysDiffer = true)
    (found : value.at? path = some (.map m above)) : entryKeysDiffer above = true := by
  induction path generalizing value with
  | nil =>
    rw [at?_nil] at found
    cases found
    exact differ
  | cons key rest ih =>
    cases value with
    | map label entries =>
      obtain ⟨child, own, found⟩ := Option.bind_eq_some_iff.mp found
      exact ih (keysDiffer_of_get? differ own) found
    | _ => cases found

/-- A mapping whose keys differ on every level can be laid over any other, and what comes out is
told path by path. -/
theorem exists_laidOver {incoming : Entries} {label : Option Label}
    (differ : (Value.map label incoming).keysDiffer = true) (base : Entries) (own : Option Label) :
    ∃ merged, mergeLayer base (.map label incoming) = .ok merged ∧
      LaidOver (.map own base) (.map label incoming) (.map none merged) := by
  refine ⟨mergeEntries base incoming, mergeLayer_map base label incoming, ?_, ?_, ?_, ?_, ?_, ?_⟩
  · intro path nonempty l below m above under upper
    obtain ⟨key, rest, rfl⟩ := List.exists_cons_of_ne_nil nonempty
    refine ⟨_, mergeLayer_map below m above, ?_⟩
    rw [(at?_mergeEntries differ base own label key rest).1 _ upper, under, mergeOver]
  · intro path nonempty l below m above under upper
    obtain ⟨key, rest, rfl⟩ := List.exists_cons_of_ne_nil nonempty
    rw [(at?_mergeEntries differ base own label key rest).1 _ upper, under, mergeOver]
  · intro path nonempty value upper maps lists
    obtain ⟨key, rest, rfl⟩ := List.exists_cons_of_ne_nil nonempty
    rw [(at?_mergeEntries differ base own label key rest).1 _ upper, mergeOver_eq_self maps lists]
  · intro path nonempty missing blocks
    obtain ⟨key, rest, rfl⟩ := List.exists_cons_of_ne_nil nonempty
    exact ((at?_mergeEntries differ base own label key rest).2 missing).1 blocks
  · intro path nonempty missing free
    obtain ⟨key, rest, rfl⟩ := List.exists_cons_of_ne_nil nonempty
    exact ((at?_mergeEntries differ base own label key rest).2 missing).2 free
  · intro path l below m above under upper
    have order := keys_mergeEntries (entryKeysDiffer_of_at? differ upper) below
    cases path with
    | nil =>
      rw [at?_nil] at under upper ⊢
      cases under
      cases upper
      exact ⟨none, _, rfl, order⟩
    | cons key rest =>
      rw [(at?_mergeEntries differ base own label key rest).1 _ upper, under, mergeOver]
      exact ⟨none, _, rfl, order⟩

/-- A section that is on both sides, with a list that is added to and a key in two forms. -/
theorem exists_laidOver_section :
    let base : Entries :=
      [(.str "a", .ofFields [("x", .int 1), ("y", .ofStrings ["p", "q"])]), (.int 1, .str "b")]
    let layer : Entries :=
      [(.str "a", .ofFields [("y", .ofStrings ["+", "r", "p"]), ("z", .null)]),
        (.bool true, .str "c")]
    (Value.map none layer).keysDiffer = true ∧
      ∃ merged, mergeLayer base (.map none layer) = .ok merged ∧
        LaidOver (.map none base) (.map none layer) (.map none merged) ∧
        (Value.map none merged).at? [.str "a", .str "y"] =
          some (.ofStrings ["p", "q", "r"]) := by
  intro base layer
  have differ : (Value.map none layer).keysDiffer = true := by decide +kernel
  obtain ⟨merged, done, laid⟩ := exists_laidOver differ base none
  refine ⟨differ, merged, done, laid, ?_⟩
  exact laid.lists [.str "a", .str "y"] (List.cons_ne_nil _ _) none _ none _ rfl rfl

end MarkupLint.Value
