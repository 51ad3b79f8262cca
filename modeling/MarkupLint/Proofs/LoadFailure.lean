import MarkupLint.Command.Run
import MarkupLint.Proofs.Layers
import MarkupLint.Proofs.Numerals

/-!
How loading a configuration can fail. Each step is told by all the errors that it can end with:
reading a file, laying a layer, reading the text of a variable, writing a setting, checking the
whole. Main statement: a load gives a configuration, or an error of the configuration, for which
the check command ends with 2, or it breaks off for one of the causes of `Config.Escapes`; a file
whose bytes are not text is one of them.
-/
namespace MarkupLint

/-! ### Variables -/

/-- A text is refused for the length of a number or for the depth of its JSON, and for nothing
else. -/
theorem Override.coerce_error {text : String} {e : ConversionError}
    (failed : coerce text = .error e) :
    (∃ count, e = .tooManyDigits count) ∨ ∃ object, e = .tooDeep object := by
  unfold coerce at failed
  dsimp only at failed
  split at failed
  next => cases failed
  next =>
    split at failed
    next => cases failed
    next =>
      split at failed
      next whole =>
        have read := readInt_ne_malformed_of_looksWhole whole
        rw [Value.toWhole, Value.wholeInBase, String.toList_ofList] at failed
        split at failed
        next => cases failed
        next malformed => exact absurd malformed read
        next count _ => cases failed; exact .inl ⟨count, rfl⟩
      next =>
        split at failed
        next real =>
          obtain ⟨x, read⟩ := Option.isSome_iff_exists.mp (readDouble?_isSome_of_looksReal real)
          rw [Value.toReal, Value.realOfChars, String.toList_ofList, read] at failed
          cases failed
        next =>
          split at failed
          next =>
            unfold bracketed at failed
            split at failed
            next => cases failed
            next => cases failed
            next object _ => cases failed; exact .inr ⟨object, rfl⟩
          next => cases failed

namespace Config

theorem override_error {below : Entries} {setting : String × String} {e : LoadError}
    (failed : (override below setting).value = .error e) :
    (∃ error, e = .config error) ∨
      ∃ path conversion, Override.path? setting.1 = some (.ok path) ∧
        Override.coerce setting.2 = .error conversion ∧ e = .conversion conversion := by
  unfold override at failed
  split at failed
  next => cases failed
  next error _ => cases failed; exact .inl ⟨error, rfl⟩
  next path named =>
    split at failed
    next conversion read => cases failed; exact .inr ⟨path, conversion, named, read, rfl⟩
    next value read =>
      cases set : Override.set below path value with
      | ok next => rw [set] at failed; cases failed
      | error error => rw [set] at failed; cases failed; exact .inl ⟨error, rfl⟩

/-! ### Files -/

/-- A layer is a mapping. -/
theorem exists_map_of_layerOf_eq_ok {folder : Path} {file : NumberedFile} {layer : Value}
    (read : layerOf folder file = .ok layer) : ∃ label entries, layer = .map label entries := by
  rcases layerOf_cases read with rfl | ⟨label, entries, rfl, -⟩
  · exact ⟨none, [], rfl⟩
  · exact ⟨label, entries, rfl⟩

theorem layerOf_error {folder : Path} {file : NumberedFile} {e : LoadError}
    (failed : layerOf folder file = .error e) :
    (∃ error, e = .config error) ∨
      ∃ fault, Yaml.read file.1 (.ofBytes file.2.2.bytes) = .error fault ∧
        fault.isMalformed = false ∧
        (fault = .undecodable ∧ e = .undecodable ∨ e = .fault fault) := by
  unfold layerOf readLayer at failed
  split at failed
  next => cases failed; exact .inl ⟨_, rfl⟩
  next =>
    split at failed
    next value _ =>
      unfold layerEntries at failed
      split at failed
      next => cases failed
      next => cases failed
      next => cases failed; exact .inl ⟨_, rfl⟩
    next read => cases failed; exact .inr ⟨_, read, rfl, .inl ⟨rfl, rfl⟩⟩
    next fault _ read =>
      cases malformed : fault.isMalformed with
      | true => rw [malformed] at failed; cases failed; exact .inl ⟨_, rfl⟩
      | false =>
        rw [malformed] at failed
        cases failed
        exact .inr ⟨fault, read, malformed, .inr rfl⟩

theorem exists_mergeLayer_map (base : Entries) (label : Option Label) (incoming : Entries) :
    ∃ merged, Value.mergeLayer base (.map label incoming) = .ok merged := by
  unfold Value.mergeLayer
  split <;> exact ⟨_, rfl⟩

/-- Mappings can be laid over each other, unless both have loops. -/
theorem lay_error {base entries : Entries} {label : Option Label} {e : LoadError}
    (failed : lay base (.map label entries) = .error e) :
    e = .endless ∧ (Value.ofEntries base).loops = true ∧
      (Value.map label entries).loops = true := by
  unfold lay at failed
  dsimp only at failed
  split at failed
  next meets =>
    cases failed
    rw [Bool.and_eq_true, Bool.and_eq_true] at meets
    exact ⟨rfl, meets.1.1, meets.1.2⟩
  next =>
    obtain ⟨own, written⟩ := exists_unfoldAlong_map label entries (.ofEntries base)
    rw [written] at failed
    split at failed
    next => cases failed
    next below _ =>
      obtain ⟨merged, laid⟩ := exists_mergeLayer_map below label own
      rw [laid] at failed
      cases failed

/-! ### The check -/

theorem validate_error {config : Value} {e : LoadError} (failed : validate config = .error e) :
    (∃ error, e = .config error) ∨
      ∃ report, Rule.violation? Schema.configuration config = .error report ∧
        e = .report report := by
  unfold validate at failed
  split at failed
  next => cases failed
  next => cases failed; exact .inl ⟨_, rfl⟩
  next report found => cases failed; exact .inr ⟨report, found, rfl⟩

/-! ### The whole -/

/-- What makes a load break off without an error of the configuration. -/
inductive Escapes (source : ConfigSource) (check : Bool) : LoadError → Prop
  /-- A file is met whose bytes are not text. -/
  | undecodable {file : NumberedFile} (member : file.2 ∈ source.files)
      (read : Yaml.read file.1 (.ofBytes file.2.2.bytes) = .error .undecodable) :
      Escapes source check .undecodable
  /-- What is at fault in a file is not its form, but what a scalar in it stands for. -/
  | fault {file : NumberedFile} {fault : Yaml.Fault} (member : file.2 ∈ source.files)
      (read : Yaml.read file.1 (.ofBytes file.2.2.bytes) = .error fault)
      (formed : fault.isMalformed = false) : Escapes source check (.fault fault)
  /-- A variable holds a whole number of too many digits. -/
  | digits {name text : String} {path : List String} {count : Nat}
      (member : (name, text) ∈ source.environment)
      (named : Override.path? name = some (.ok path))
      (read : Override.coerce text = .error (.tooManyDigits count)) :
      Escapes source check (.conversion (.tooManyDigits count))
  /-- A variable holds JSON that goes too deep for its reader. -/
  | nested {name text : String} {path : List String} {object : Bool}
      (member : (name, text) ∈ source.environment)
      (named : Override.path? name = some (.ok path))
      (read : Override.coerce text = .error (.tooDeep object)) :
      Escapes source check (.conversion (.tooDeep object))
  /-- A layer with a mapping inside itself is laid over such a one. -/
  | endless {below : Entries} {file : NumberedFile} {layer : Value}
      (met : Meets source.folder bundled (numbered source.files) below file)
      (read : layerOf source.folder file = .ok layer)
      (loops : (Value.ofEntries below).loops = true ∧ layer.loops = true) :
      Escapes source check .endless
  /-- Of the violations that the check finds, none can be chosen or written. -/
  | report {entries : Entries} {report : ReportError} (checked : check = true)
      (made : (merge source).value = .ok entries)
      (found : Rule.violation? Schema.configuration (.ofEntries entries) = .error report) :
      Escapes source check (.report report)

variable {source : ConfigSource} {check : Bool} {e : LoadError}

theorem escapes_of_files
    (failed : (mergeFiles source.folder bundled (numbered source.files)).value = .error e) :
    (∃ error, e = .config error) ∨ Escapes source check e := by
  obtain ⟨below, file, met, failed⟩ := mergeFiles_value_eq_error_iff.mp failed
  have member := mem_of_mem_numbered met.mem
  rw [mergeFile, bind_eq_error_iff] at failed
  rcases failed with failed | ⟨layer, read, failed⟩
  · rcases layerOf_error failed with config | ⟨fault, read, formed, ⟨rfl, rfl⟩ | rfl⟩
    · exact .inl config
    · exact .inr (.undecodable member read)
    · exact .inr (.fault member read formed)
  · obtain ⟨label, entries, rfl⟩ := exists_map_of_layerOf_eq_ok read
    obtain ⟨rfl, loops⟩ := lay_error failed
    exact .inr (.endless met read loops)

theorem escapes_of_settings {merged : Entries}
    (failed : (overrideAll merged (overrides source.environment)).value = .error e) :
    (∃ error, e = .config error) ∨ Escapes source check e := by
  obtain ⟨⟨name, text⟩, member, below, failed⟩ := exists_override_of_overrideAll_eq_error failed
  have inside := (mem_overrides.mp member).1
  rcases override_error failed with config | ⟨path, conversion, named, read, rfl⟩
  · exact .inl config
  · rcases Override.coerce_error read with ⟨count, rfl⟩ | ⟨object, rfl⟩
    · exact .inr (.digits inside named read)
    · exact .inr (.nested inside named read)

theorem escapes_of_load (failed : (load source check).value = .error e) :
    (∃ error, e = .config error) ∨ Escapes source check e := by
  rw [load_value, bind_eq_error_iff] at failed
  rcases failed with failed | ⟨entries, made, failed⟩
  · rw [merge_value, bind_eq_error_iff] at failed
    rcases failed with failed | ⟨merged, -, failed⟩
    · exact escapes_of_files failed
    · cases settings : (overrideAll merged (overrides source.environment)).value with
      | ok written => rw [settings] at failed; cases failed
      | error own =>
        rw [settings] at failed
        cases failed
        exact escapes_of_settings settings
  · cases check with
    | false => cases failed
    | true =>
      cases valid : validate (.ofEntries entries) with
      | ok _ => rw [valid] at failed; cases failed
      | error own =>
        rw [valid] at failed
        cases failed
        rcases validate_error valid with config | ⟨report, found, rfl⟩
        · exact .inl config
        · exact .inr (.report rfl made found)

/-- The check command answers an error of the configuration and ends with 2. -/
theorem check_eq_configFailure {s : Command.Surroundings} {request : Command.CheckRequest}
    {error : ConfigError} (own : s.sourceOf request.root = .ok source)
    (failed : (load source true).value = .error (.config error)) :
    Command.check s request = .ok (Command.configFailure { json := request.json } error) := by
  unfold Command.check
  rw [own]
  dsimp only
  rw [failed]

/-- A load gives a configuration, or it fails with an error of the configuration and the check
command ends with 2, or it breaks off for a known cause. -/
theorem load_cases (source : ConfigSource) (check : Bool) :
    (∃ entries, (load source check).value = .ok entries) ∨
      (∃ error, (load source check).value = .error (.config error) ∧
        (check = true → ∀ (s : Command.Surroundings) (request : Command.CheckRequest),
          s.sourceOf request.root = .ok source →
            ∃ outcome, Command.check s request = .ok outcome ∧ outcome.exit = 2)) ∨
      ∃ e, (load source check).value = .error e ∧ Escapes source check e := by
  cases loaded : (load source check).value with
  | ok entries => exact .inl ⟨entries, rfl⟩
  | error e =>
    rcases escapes_of_load loaded with ⟨error, rfl⟩ | escapes
    · refine .inr (.inl ⟨error, rfl, ?_⟩)
      rintro rfl s request own
      exact ⟨_, check_eq_configFailure own loaded, rfl⟩
    · exact .inr (.inr ⟨e, rfl, escapes⟩)

/-- A key, a colon and a byte that is not text: what a file of a project may hold makes a load
break off, and the check command with it. -/
theorem load_eq_undecodable :
    let file : String × FileContent := ("a.yaml", { bytes := [0x61, 0x3a, 0x20, 0xff, 0x0a] })
    (load { files := [file] } true).value = .error .undecodable ∧
      ∀ error, (load { files := [file] } true).value ≠ .error (.config error) := by
  intro file
  have supplied : Yaml.Supply.ofBytes file.2.bytes = ⟨[], some .undecodable⟩ := by decide +kernel
  have read : Yaml.read 0 (.ofBytes file.2.bytes) = .error .undecodable := by
    rw [supplied]
    rfl
  have layer : layerOf {} (0, file) = .error .undecodable := by
    unfold layerOf readLayer
    dsimp only
    rw [read]
  have merged : (mergeFiles {} bundled (numbered [file])).value = .error .undecodable := by
    rw [mergeFiles_value_eq_error_iff]
    exact ⟨bundled, (0, file), .first _ _ _, by rw [mergeFile, layer]; rfl⟩
  have loaded : (load { files := [file] } true).value = .error .undecodable := by
    rw [load_value, merge_value, merged]
    rfl
  refine ⟨loaded, fun error config => ?_⟩
  rw [loaded] at config
  cases config

end Config

end MarkupLint
