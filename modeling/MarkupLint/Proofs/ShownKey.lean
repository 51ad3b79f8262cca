import MarkupLint.Command.Run
import MarkupLint.Proofs.Layers
import MarkupLint.Proofs.Pieces
import MarkupLint.Proofs.SchemaRules

/-!
One key of the configuration as the show command answers it. The configuration is loaded a second
time for the key, without a check, and is the same again; then the parts of the key between dots
are followed, mapping by mapping (`Value.Reaches`), until there is no such key or no mapping
(`Value.BreaksOff`). Main statement: a key is unknown if its parts break off, and also if they
reach null; any other value is shown, in text form whenever its numbers can be written
(`Command.showConfig_of_key`).
-/
namespace MarkupLint

namespace Value

variable {label : Option Label} {entries : Entries} {value child found : Value} {part : String}
  {parts : List String}

/-- Parts lead from mapping to mapping as far as a value. -/
inductive Reaches : Value → List String → Value → Prop
  | here (value : Value) : Reaches value [] value
  | into {label : Option Label} {entries : Entries} {part : String} {child found : Value}
      {parts : List String} (own : Entries.get? entries (.str part) = some child)
      (more : Reaches child parts found) : Reaches (.map label entries) (part :: parts) found

/-- Parts meet a key that is missing, or something other than a mapping, before their end. -/
inductive BreaksOff : Value → List String → Prop
  | missing {label : Option Label} {entries : Entries} {part : String} {parts : List String}
      (absent : Entries.get? entries (.str part) = none) :
      BreaksOff (.map label entries) (part :: parts)
  | notMapping {value : Value} {part : String} {parts : List String}
      (other : value.entries? = none) : BreaksOff value (part :: parts)
  | into {label : Option Label} {entries : Entries} {part : String} {child : Value}
      {parts : List String} (own : Entries.get? entries (.str part) = some child)
      (more : BreaksOff child parts) : BreaksOff (.map label entries) (part :: parts)

theorem eq_null_of_isNull (null : value.isNull = true) : value = .null := by
  cases value with
  | scalar s =>
    cases s with
    | null => rfl
    | _ => cases null
  | _ => cases null

theorem at?_of_entries?_eq_none (other : value.entries? = none) (key : Scalar)
    (path : List Scalar) : value.at? (key :: path) = none := by
  cases value with
  | map label entries => cases other
  | _ => rfl

theorem at?_of_reaches (reached : Reaches value parts found) :
    value.at? (parts.map .str) = some found := by
  induction reached with
  | here value => cases value <;> rfl
  | into own more ih => rw [List.map_cons, at?, own, Option.bind_some, ih]

theorem at?_of_breaksOff (broken : BreaksOff value parts) : value.at? (parts.map .str) = none := by
  induction broken with
  | missing absent => rw [List.map_cons, at?, absent, Option.bind_none]
  | notMapping other => exact at?_of_entries?_eq_none other _ _
  | into own more ih => rw [List.map_cons, at?, own, Option.bind_some, ih]

/-- Parts reach a value or break off. -/
theorem exists_reaches_or_breaksOff (value : Value) (parts : List String) :
    (∃ found, Reaches value parts found) ∨ BreaksOff value parts := by
  induction parts generalizing value with
  | nil => exact .inl ⟨value, .here value⟩
  | cons part parts ih =>
    cases mapping : value.entries? with
    | none => exact .inr (.notMapping mapping)
    | some entries =>
      cases value with
      | map label own =>
        cases held : Entries.get? own (.str part) with
        | none => exact .inr (.missing held)
        | some child =>
          rcases ih child with ⟨found, more⟩ | more
          · exact .inl ⟨found, .into held more⟩
          · exact .inr (.into held more)
      | _ => cases mapping

theorem at?_eq_some_iff : value.at? (parts.map .str) = some found ↔ Reaches value parts found := by
  refine ⟨fun own => ?_, at?_of_reaches⟩
  rcases exists_reaches_or_breaksOff value parts with ⟨other, reached⟩ | broken
  · rw [at?_of_reaches reached, Option.some_inj] at own
    rwa [own] at reached
  · rw [at?_of_breaksOff broken] at own
    cases own

theorem at?_eq_none_iff : value.at? (parts.map .str) = none ↔ BreaksOff value parts := by
  refine ⟨fun own => ?_, at?_of_breaksOff⟩
  rcases exists_reaches_or_breaksOff value parts with ⟨other, reached⟩ | broken
  · rw [at?_of_reaches reached] at own
    cases own
  · exact broken

/-! ### Keys -/

/-- A key that is parts with a dot between each two, and none inside. -/
structure IsDotted (key : String) (parts : List String) : Prop where
  nonempty : parts ≠ []
  joined : ".".intercalate parts = key
  whole : ∀ part ∈ parts, '.' ∉ part.toList

theorem isDotted_iff {key : String} : IsDotted key parts ↔ Text.splitText "." key = parts := by
  have cut : Text.AreCut ".".toList (parts.map String.toList) ↔
      parts ≠ [] ∧ ∀ part ∈ parts, '.' ∉ part.toList :=
    Text.areCut_singleton_iff.trans (and_congr List.map_eq_nil_iff.not List.forall_mem_map)
  rw [Text.splitText_eq_iff (by decide), cut]
  constructor
  · rintro ⟨nonempty, joined, whole⟩
    exact ⟨⟨nonempty, whole⟩, joined⟩
  · rintro ⟨⟨nonempty, whole⟩, joined⟩
    exact ⟨nonempty, joined, whole⟩

theorem lookup?_of_isDotted {key : String} (dotted : IsDotted key parts) :
    value.lookup? key = (value.unfoldTo parts.length).at? (parts.map .str) := by
  rw [lookup?, isDotted_iff.mp dotted, List.length_map]

end Value

/-! ### Writing a value -/

namespace Yaml

theorem writable_meet (label : Option Label) (e : Encounters) :
    (e.meet label).2.writable = e.writable := by
  unfold Encounters.meet
  cases label with
  | none => rfl
  | some l => dsimp only; split_ifs <;> rfl

theorem writable_encounterScalar {s : Scalar} {e : Encounters} (own : s.isWritable = true)
    (before : e.writable = true) : (encounterScalar s e).writable = true := by
  rw [encounterScalar, Bool.and_eq_true, writable_meet]
  exact ⟨before, own⟩

theorem writable_encounterScalars {members : List Scalar}
    (own : ∀ member ∈ members, member.isWritable = true) (e : Encounters)
    (before : e.writable = true) :
    (members.foldl (fun e member => encounterScalar member e) e).writable = true := by
  induction members generalizing e with
  | nil => exact before
  | cons member rest ih =>
    obtain ⟨first, others⟩ := List.forall_mem_cons.mp own
    exact ih others _ (writable_encounterScalar first before)

theorem writable_enter {enter : Encounters → Encounters} {label : Option Label} {e : Encounters}
    (keeps : ∀ e : Encounters, e.writable = true → (enter e).writable = true)
    (before : e.writable = true) :
    (match e.meet label with
      | (true, e) => enter e
      | (false, e) => e).writable = true := by
  rw [← writable_meet label e] at before
  split
  next next met => exact keeps next (by rwa [met] at before)
  next next met => rwa [met] at before

mutual

/-- What is met in a value has texts if all scalars in it have. -/
theorem writable_encounter : (value : Value) → value.isWritable = true → ∀ e : Encounters,
    e.writable = true → (encounter value e).writable = true
  | .scalar s, own, e, before => writable_encounterScalar own before
  | .list label items, own, e, before => by
    rw [encounter]
    exact writable_enter (writable_encounterItems items own) before
  | .pair label first second, own, e, before => by
    obtain ⟨one, other⟩ := (Bool.and_eq_true _ _).mp own
    rw [encounter]
    exact writable_enter (fun e before =>
      writable_encounter second other _ (writable_encounter first one e before)) before
  | .set label members, own, e, before => by
    rw [encounter]
    exact writable_enter (writable_encounterScalars (List.all_eq_true.mp own)) before
  | .map label entries, own, e, before => by
    rw [encounter]
    exact writable_enter (writable_encounterEntries entries own) before
  | .again label mapping, own, e, before => by rw [encounter, writable_meet, before]

theorem writable_encounterItems : (items : List Value) → Value.areWritable items = true →
    ∀ e : Encounters, e.writable = true → (encounterItems items e).writable = true
  | [], own, e, before => before
  | item :: rest, own, e, before => by
    obtain ⟨one, others⟩ := (Bool.and_eq_true _ _).mp own
    exact writable_encounterItems rest others _ (writable_encounter item one e before)

theorem writable_encounterEntries : (entries : Entries) →
    Value.areWritableEntries entries = true → ∀ e : Encounters, e.writable = true →
      (encounterEntries entries e).writable = true
  | [], own, e, before => before
  | (key, value) :: rest, own, e, before => by
    obtain ⟨own, others⟩ := (Bool.and_eq_true _ _).mp own
    obtain ⟨name, one⟩ := (Bool.and_eq_true _ _).mp own
    exact writable_encounterEntries rest others _
      (writable_encounter value one _ (writable_encounterScalar name before))

end

theorem exists_write_of_isWritable {value : Value} (own : value.isWritable = true) :
    ∃ text, write value = .ok text := by
  rw [write, if_pos (writable_encounter value own {} rfl)]
  exact ⟨_, rfl⟩

end Yaml

/-! ### Loading twice -/

namespace Config

variable {source : ConfigSource} {check : Bool} {entries : Entries}

theorem load_false_value (source : ConfigSource) :
    (load source false).value = (merge source).value := by
  rw [load_value]
  cases (merge source).value <;> rfl

theorem load_true_of_allHold (loaded : (load source false).value = .ok entries)
    (holds : Rule.AllHold (.ofEntries entries) Schema.configuration) :
    (load source true).value = .ok entries := by
  rw [load_value, ← load_false_value, loaded]
  dsimp only [Except.bind]
  rw [if_pos rfl, validate_of_allHold holds]
  rfl

/-- What can be told of a configuration without running a load with its check. -/
theorem exists_checked_load_of_any {settings : List (String × String)} {p : Entries → Bool}
    (sorted : overrides source.environment = settings)
    (holds : ((mergeFiles source.folder bundled (numbered source.files)).value.toOption.any
      fun merged => (overrideAll merged settings).value.toOption.any fun written =>
        decide (Rule.AllHold (.ofEntries (writtenOut written)) Schema.configuration) &&
          p (writtenOut written)) = true) :
    ∃ entries, (load source true).value = .ok entries ∧ p entries = true := by
  obtain ⟨-, final, -, unchecked, holds⟩ := exists_load_of_any
    (p := fun _ final =>
      decide (Rule.AllHold (.ofEntries final) Schema.configuration) && p final) sorted holds
  obtain ⟨valid, own⟩ := (Bool.and_eq_true _ _).mp holds
  exact ⟨final, load_true_of_allHold unchecked (of_decide_eq_true valid), own⟩

/-- What passes the check is found again when it is loaded without one. -/
theorem get?_of_load (loaded : (load source check).value = .ok entries) (key : String) :
    get? source key = .ok ((Value.ofEntries entries).lookup? key) := by
  have unchecked : (load source false).value = .ok entries := by
    -- Both loads merge the same layers, and the check leaves the result as it is.
    rw [load_value] at loaded
    obtain ⟨merged, made, checked⟩ := exists_of_bind_eq_ok loaded
    rw [load_false_value, made]
    cases check with
    | false => exact checked
    | true =>
      obtain ⟨-, -, same⟩ := exists_of_map_eq_ok checked
      rw [same]
  rw [get?, unchecked]
  rfl

end Config

/-! ### The command -/

namespace Command

open Value

variable {s : Surroundings} {request : ShowRequest} {source : ConfigSource} {entries : Entries}
  {key : String}

theorem showConfig_eq (place : s.sourceOf request.root = .ok source)
    (loaded : (Config.load source true).value = .ok entries) (asked : request.key = some key)
    (given : key ≠ "") :
    showConfig s request =
      match Config.get? source key with
      | .error e => .error (.load e)
      | .ok none | .ok (some .null) => .ok (unknownKey { json := request.json } key)
      | .ok (some value) =>
          (shown { json := request.json } value).map fun written => { written := written } := by
  rw [showConfig, place]
  dsimp only
  rw [loaded, asked]
  dsimp only [Option.getD_some]
  exact if_neg (by simpa using given)

theorem showConfig_of_unknown (place : s.sourceOf request.root = .ok source)
    (loaded : (Config.load source true).value = .ok entries) (asked : request.key = some key)
    (given : key ≠ "") (unknown : (Value.ofEntries entries).lookup? key = none ∨
      (Value.ofEntries entries).lookup? key = some .null) :
    showConfig s request = .ok (unknownKey { json := request.json } key) := by
  rw [showConfig_eq place loaded asked given, Config.get?_of_load loaded]
  rcases unknown with missing | null
  · rw [missing]
  · rw [null]

theorem showConfig_of_value {value : Value} (place : s.sourceOf request.root = .ok source)
    (loaded : (Config.load source true).value = .ok entries) (asked : request.key = some key)
    (given : key ≠ "") (found : (Value.ofEntries entries).lookup? key = some value)
    (other : value ≠ .null) :
    showConfig s request =
      (shown { json := request.json } value).map fun written => { written := written } := by
  rw [showConfig_eq place loaded asked given, Config.get?_of_load loaded, found]
  split
  next failed => cases failed
  next missing => cases missing
  next null => cases null; exact absurd rfl other
  next same => cases same; rfl

/-- Where the configuration of a project loads, and a key is asked for, the command ends with 1
exactly if the parts of the key break off or reach null, and says then that the key is unknown. Any
other value that they reach is shown; in text form this succeeds unless a number in it is too long
to be written. -/
theorem showConfig_of_key (place : s.sourceOf request.root = .ok source)
    (loaded : (Config.load source true).value = .ok entries) (asked : request.key = some key)
    (given : key ≠ "") :
    ∃ parts config, IsDotted key parts ∧
      config = (Value.ofEntries entries).unfoldTo parts.length ∧
      ((∃ outcome, showConfig s request = .ok outcome ∧ outcome.exit = 1) ↔
        BreaksOff config parts ∨ Reaches config parts .null) ∧
      (BreaksOff config parts ∨ Reaches config parts .null →
        showConfig s request = .ok (unknownKey { json := request.json } key)) ∧
      ∀ value, Reaches config parts value → value ≠ .null →
        (showConfig s request =
          (shown { json := request.json } value).map fun written => { written := written }) ∧
        (request.json = false → value.isWritable = true →
          ∃ text, Yaml.write value = .ok text ∧ showConfig s request =
            .ok { written := OutputForm.text (String.ofList (Text.trimEnd text.toList)) }) := by
  have dotted : IsDotted key (Text.splitText "." key) := isDotted_iff.mpr rfl
  have led {found : Option Value} : (Value.ofEntries entries).lookup? key = found ↔
      ((Value.ofEntries entries).unfoldTo (Text.splitText "." key).length).at?
        ((Text.splitText "." key).map .str) = found := by rw [lookup?_of_isDotted dotted]
  have unknown := showConfig_of_unknown place loaded asked given
  rw [led, led, at?_eq_none_iff, at?_eq_some_iff] at unknown
  have answer {value : Value} (reached : Reaches _ _ value) (other : value ≠ .null) :=
    showConfig_of_value place loaded asked given (led.mpr (at?_eq_some_iff.mpr reached)) other
  refine ⟨_, _, dotted, rfl, ⟨?_, fun broken => ⟨_, unknown broken, rfl⟩⟩, unknown,
    fun value reached other => ⟨answer reached other, fun plain own => ?_⟩⟩
  · -- What is shown ends with 0, so only the two other cases remain.
    rintro ⟨outcome, done, exit⟩
    rcases exists_reaches_or_breaksOff _ _ with ⟨value, reached⟩ | broken
    · by_cases null : value = .null
      · exact .inr (null ▸ reached)
      · rw [answer reached null] at done
        obtain ⟨written, -, rfl⟩ := Config.exists_of_map_eq_ok done
        cases exit
    · exact .inl broken
  · obtain ⟨text, written⟩ := Yaml.exists_write_of_isWritable own
    refine ⟨text, written, ?_⟩
    rw [answer reached other, shown, plain, if_neg Bool.false_ne_true, written]
    rfl

theorem showConfig_of_key_whole_number :
    showConfig {} { key := some "scan.max_concurrency" } =
      .ok { written := { out := "4\n...\n" } } := by
  let request : ShowRequest := { key := some "scan.max_concurrency" }
  let source : ConfigSource := { folder := { names := Config.folderName } }
  have place : Surroundings.sourceOf {} request.root = .ok source := rfl
  have bare : Config.overrides source.environment = [] := List.mergeSort_nil
  let isFour (entries : Entries) : Bool :=
    ((Value.ofEntries entries).lookup? "scan.max_concurrency").any fun value =>
      !value.isNull && value.isWritable && (Yaml.write value).toOption == some "4\n...\n"
  obtain ⟨entries, loaded, four⟩ :=
    Config.exists_checked_load_of_any (p := isFour) bare (by decide +kernel)
  obtain ⟨value, found, own⟩ := (Option.any_eq_true _ _).mp four
  simp only [Bool.and_eq_true, Bool.not_eq_true', beq_iff_eq] at own
  obtain ⟨⟨other, writable⟩, four⟩ := own
  obtain ⟨parts, config, dotted, rfl, -, -, values⟩ :=
    showConfig_of_key place loaded rfl (by decide)
  rw [lookup?_of_isDotted dotted, at?_eq_some_iff] at found
  have given : value ≠ .null := by
    rintro rfl
    cases other
  obtain ⟨text, written, answer⟩ := (values _ found given).2 rfl writable
  rw [written] at four
  cases four
  exact answer

/-- A key that is there with null below it is answered as if it were not there. -/
theorem showConfig_of_null :
    let file : FileContent := { bytes := Utf8.encode "attributes: {target: null}\n" }
    let folder : Entry := .folder [("config", .folder [("a.yaml", .file file)])]
    let s : Surroundings := { project := { root := .folder [(".tsxlint", folder)] } }
    ∃ source entries, s.sourceOf none = .ok source ∧
      (Config.load source true).value = .ok entries ∧
      IsDotted "attributes.target" ["attributes", "target"] ∧
      Reaches ((Value.ofEntries entries).unfoldTo 2) ["attributes", "target"] .null ∧
      ∃ outcome, showConfig s { key := some "attributes.target" } = .ok outcome ∧
        outcome.exit = 1 := by
  intro file folder s
  let source : ConfigSource :=
    { folder := { names := Config.folderName }, files := [("a.yaml", file)] }
  have place : s.sourceOf none = .ok source := by
    have inside : s.project.find (Path.join {} ⟨"", Config.folderName⟩) =
        .ok (.folder [("a.yaml", .file file)]) := rfl
    have files : Config.filesOf s.project {} = .ok [("a.yaml", file)] := by
      rw [Config.filesOf, inside]
      exact congrArg Except.ok (List.mergeSort_singleton _)
    have root : s.rootFolder none = .ok s.working := rfl
    have here : s.working.below? s.working = some {} := rfl
    rw [Surroundings.sourceOf, root]
    dsimp only [Except.bind]
    rw [Surroundings.configSource, here]
    dsimp only [Option.map, Option.getD]
    rw [files]
    rfl
  let isNull (entries : Entries) : Bool :=
    ((Value.ofEntries entries).lookup? "attributes.target").any Value.isNull
  have bare : Config.overrides source.environment = [] := List.mergeSort_nil
  obtain ⟨entries, loaded, null⟩ :=
    Config.exists_checked_load_of_any (p := isNull) bare (by decide +kernel)
  have found : (Value.ofEntries entries).lookup? "attributes.target" = some .null := by
    obtain ⟨value, held, null⟩ := (Option.any_eq_true _ _).mp null
    rw [held, eq_null_of_isNull null]
  have dotted : IsDotted "attributes.target" ["attributes", "target"] :=
    ⟨by decide, by decide, by decide⟩
  refine ⟨source, entries, place, loaded, dotted, ?_, _,
    showConfig_of_unknown place loaded rfl (by decide) (.inr found), rfl⟩
  rwa [lookup?_of_isDotted dotted, at?_eq_some_iff] at found

end Command

end MarkupLint
