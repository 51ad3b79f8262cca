import MarkupLint.Check.Registry
import MarkupLint.Config.Settings
import MarkupLint.Proofs.SchemaRules

/-!
A configuration that passes the check can be used. Whoever reads a setting reads it with a
conversion that may fail; under the rules that the schema has for the setting none does. Main
statement: the settings of such a configuration can be read, and the checkers that it enables
can be set up, as many of them as are registered, in the order in which they are named.
-/
namespace MarkupLint

namespace Value

/-- No leaf in the uppermost levels of mappings stands for a container around it. A load writes a
configuration out in this way, since settings are read off it level by level
(`Config.isWrittenOut_of_load`). -/
def IsWrittenOut : Nat → Value → Prop
  | _ + 1, .again _ _ => False
  | depth + 1, .map _ entries => ∀ entry ∈ entries, IsWrittenOut depth entry.2
  | _, _ => True

theorem IsWrittenOut.entries {depth : Nat} {value part : Value} {name : String}
    (written : value.IsWrittenOut (depth + 1))
    (found : (value.entries?.getD []).field? name = some part) :
    part.IsWrittenOut depth := by
  cases value with
  | map label entries =>
    rw [Entries.field?, Entries.get?, Option.map_eq_some_iff] at found
    obtain ⟨entry, there, rfl⟩ := found
    exact written entry (List.mem_of_find?_eq_some there)
  | _ => simp [Entries.field?, Entries.get?, entries?] at found

/-- A setting is null where it is left out. -/
theorem field_or (value : Value) {name : String} {p : Value → Prop}
    (each : ∀ part, (value.entries?.getD []).field? name = some part → p part) :
    value.field name = .null ∨ p (value.field name) := by
  rw [field]
  cases found : (value.entries?.getD []).field? name with
  | none => exact .inl rfl
  | some part => exact .inr (each part found)

theorem exists_items_of_isList {depth : Nat} {value : Value} (isList : value.isList = true)
    (written : value.IsWrittenOut (depth + 1)) : ∃ label items, value = .list label items := by
  cases value with
  | list label items => exact ⟨label, items, rfl⟩
  | again label mapping => exact written.elim
  | _ => cases isList

theorem exists_entries_of_isMap {depth : Nat} {value : Value} (isMap : value.isMap = true)
    (written : value.IsWrittenOut (depth + 1)) : ∃ label entries, value = .map label entries := by
  cases value with
  | map label entries => exact ⟨label, entries, rfl⟩
  | again label mapping => exact written.elim
  | _ => cases isMap

theorem exists_texts {items : List Value} (texts : ∀ item ∈ items, ∃ s, item = .str s) :
    ∃ names : List String, items = names.map .str := by
  have same : items.map (fun item => Value.str item.display) = items.map id := by
    apply List.map_congr_left
    intro item member
    obtain ⟨s, rfl⟩ := texts item member
    rfl
  refine ⟨items.map display, ?_⟩
  rw [List.map_map]
  exact (same.trans items.map_id).symm

/-- A number without a fraction can be read, infinity being none. -/
theorem exists_toWhole_of_integer {value : Value} (integer : value.hasType .integer = true) :
    ∃ n, value.toWhole = .ok n := by
  cases value with
  | scalar s =>
    cases s with
    | int n => exact ⟨n, rfl⟩
    | float x =>
      cases x with
      | finite units => exact ⟨_, rfl⟩
      | negativeZero => exact ⟨_, rfl⟩
      | infinity negative => cases integer
      | nan => cases integer
    | _ => cases integer
  | _ => cases integer

end Value

/-! ### Settings -/

namespace ScanSettings

theorem head?_extension (item : Value) : (extension item).toList.head? = some '.' := by
  unfold extension
  dsimp only
  split
  next dotted => exact dotted
  next => simp

/-- With a limit that is a whole number, if there is one, the limit can be read. -/
theorem exists_concurrency {configured : Value} (default : Nat)
    (whole : configured = .null ∨ configured.hasType .integer = true) :
    ∃ limit, concurrency configured default = .ok limit ∧ 1 ≤ limit := by
  have readable :
      ∃ n, (if configured.isGiven then configured else .int default).toWhole = .ok n := by
    split
    next given =>
      rcases whole with rfl | integer
      · cases given
      · exact Value.exists_toWhole_of_integer integer
    next => exact ⟨default, rfl⟩
  obtain ⟨n, read⟩ := readable
  refine ⟨(max 1 n).toNat, by rw [concurrency, read]; rfl, by omega⟩

theorem exists_ofEntries {entries : Entries}
    (limit : ∀ part, entries.field? "max_concurrency" = some part → part.hasType .integer = true) :
    ∃ settings, ofEntries entries = .ok settings ∧ 1 ≤ settings.maxConcurrency ∧
      ∀ e ∈ settings.extensions, e.toList.head? = some '.' := by
  obtain ⟨n, read, least⟩ := exists_concurrency ({} : ScanSettings).maxConcurrency
    ((Value.ofEntries entries).field_or limit)
  refine ⟨_, by rw [ofEntries, read]; rfl, least, ?_⟩
  dsimp only
  cases ((Value.ofEntries entries).field "extensions").items? with
  | none => decide
  | some items =>
    intro e member
    obtain ⟨item, -, rfl⟩ := List.mem_map.mp member
    exact head?_extension item

end ScanSettings

/-- What the schema asks of a section holds of its entries, which are none if the section is
left out. -/
theorem LintSettings.allHold_sectionEntries {config : Value}
    {sections fields : List (String × List Rule)} (name : String)
    (holds : Rule.AllHold config (Schema.fieldsOf sections))
    (member : (name, Schema.fieldsOf fields) ∈ sections) :
    ∀ field ∈ fields, ∀ part, (sectionEntries config name).field? field.1 = some part →
      Rule.AllHold part field.2 := by
  intro field inside part found
  obtain ⟨-, each⟩ := (Schema.allHold_fieldsOf config sections).mp holds
  have entries : sectionEntries config name =
      ((((config.entries?.getD []).field? name).getD .null).entries?).getD [] := rfl
  rw [entries] at found
  cases own : (config.entries?.getD []).field? name with
  | none =>
    rw [own] at found
    cases found
  | some whole =>
    obtain ⟨-, parts⟩ := (Schema.allHold_fieldsOf whole fields).mp (each _ member whole own)
    rw [own] at found
    exact parts field inside part found

theorem LintSettings.isWrittenOut_sectionEntries {config : Value} {depth : Nat}
    {topic name : String} {part : Value} (written : config.IsWrittenOut (depth + 2))
    (found : (sectionEntries config topic).field? name = some part) : part.IsWrittenOut depth := by
  have entries : sectionEntries config topic =
      ((((config.entries?.getD []).field? topic).getD .null).entries?).getD [] := rfl
  rw [entries] at found
  cases own : (config.entries?.getD []).field? topic with
  | none =>
    rw [own] at found
    cases found
  | some whole =>
    rw [own] at found
    exact (written.entries own).entries found

/-! ### Checkers -/

namespace SpellingChecker

theorem exists_ofLanguage {dictionaries : Dictionaries}
    (english : (dictionaries.lookup fallback).isSome = true) (language : String)
    (allow : List String) (limit : Int) :
    ∃ checker, (ofLanguage dictionaries language allow limit).value = .ok checker := by
  unfold ofLanguage
  dsimp only
  cases lexicon? dictionaries language with
  | some lexicon => exact ⟨_, rfl⟩
  | none =>
    have lowered : Text.lowered fallback = fallback := by decide +kernel
    obtain ⟨counts, found⟩ := Option.isSome_iff_exists.mp english
    rw [lexicon?, lowered, found]
    exact ⟨_, rfl⟩

/-- With a list of exceptions and a whole limit, as far as they are given, the checker can be
set up, in English if there are no words for its language. -/
theorem exists_ofConfig {dictionaries : Dictionaries}
    (english : (dictionaries.lookup fallback).isSome = true) {config : Value}
    (allow : ∀ part, (config.entries?.getD []).field? "allow" = some part →
      ∃ label items, part = .list label items)
    (limit : ∀ part, (config.entries?.getD []).field? "max_acronym_length" = some part →
      part.hasType .integer = true) :
    ∃ checker, (ofConfig dictionaries config).value = .ok checker := by
  have exceptions : ∃ names, allowed (config.field "allow") = .ok names := by
    rcases config.field_or allow with absent | ⟨label, items, listed⟩
    · rw [absent]
      exact ⟨[], rfl⟩
    · rw [listed, allowed]
      split <;> exact ⟨_, rfl⟩
  have length : ∃ n, acronymLimit config = .ok n := by
    rw [acronymLimit]
    cases found : (config.entries?.getD []).field? "max_acronym_length" with
    | none => exact ⟨5, rfl⟩
    | some part => exact Value.exists_toWhole_of_integer (limit part found)
  obtain ⟨names, read⟩ := exceptions
  obtain ⟨n, counted⟩ := length
  unfold ofConfig
  rw [read, counted]
  exact exists_ofLanguage english _ names n

end SpellingChecker

namespace Registry

/-- What a configuration says about a checker is a mapping or nothing. -/
theorem sectionOf_str (config : Value) (name : String) :
    sectionOf config (.str name) = .ok .null ∨
      ∃ label entries, sectionOf config (.str name) = .ok (.map label entries) ∧
        (config.entries?.getD []).field? name = some (.map label entries) := by
  have own : (config.entries?.getD []).field? name =
    Entries.get? (config.entries?.getD []) (.str name) := rfl
  rw [sectionOf, own]
  split
  next label entries found => exact .inr ⟨label, entries, rfl, found⟩
  next => exact .inl rfl

def isRegistered (registry : Registry) (name : String) : Bool :=
  (registry.lookup name).isSome

theorem install_of_lookup {registry : Registry} {config own : Value} {name : String}
    {factory : Factory} {installed : Installed} (registered : registry.lookup name = some factory)
    (told : sectionOf config (.str name) = .ok own) (set : (factory own).value = .ok installed) :
    (registry.install config (.str name)).value = .ok (some installed) := by
  have display : (Value.str name).display = name := rfl
  unfold install
  rw [display, registered]
  dsimp only
  rw [told]
  dsimp only
  rw [set]

theorem exists_install {dictionaries : Dictionaries}
    (english : (dictionaries.lookup SpellingChecker.fallback).isSome = true) {config : Value}
    (spelling : ∀ part, (config.entries?.getD []).field? "spelling" = some part →
      ∃ checker, (SpellingChecker.ofConfig dictionaries part).value = .ok checker)
    (name : String) :
    ∃ installed, ((builtIn dictionaries).install config (.str name)).value = .ok installed ∧
      installed.toList.map (·.checker.name) =
        [name].filter (builtIn dictionaries).isRegistered := by
  by_cases isSpelling : name = "spelling"
  · subst isSpelling
    have built : ∃ own checker, sectionOf config (.str "spelling") = .ok own ∧
        (SpellingChecker.ofConfig dictionaries own).value = .ok checker := by
      rcases sectionOf_str config "spelling" with absent | ⟨label, entries, present, found⟩
      · have plain : ∃ checker, (SpellingChecker.ofConfig dictionaries .null).value = .ok checker :=
          SpellingChecker.exists_ofConfig english (fun _ found => by cases found)
            (fun _ found => by cases found)
        obtain ⟨checker, set⟩ := plain
        exact ⟨.null, checker, absent, set⟩
      · obtain ⟨checker, set⟩ := spelling _ found
        exact ⟨_, checker, present, set⟩
    obtain ⟨own, checker, told, set⟩ := built
    refine ⟨some (.spelling checker), install_of_lookup rfl told ?_, rfl⟩
    rw [spellingFactory, set]
    rfl
  · by_cases isProse : name = "prose"
    · subst isProse
      have told : ∃ own, sectionOf config (.str "prose") = .ok own := by
        rcases sectionOf_str config "prose" with absent | ⟨label, entries, present, -⟩
        · exact ⟨_, absent⟩
        · exact ⟨_, present⟩
      obtain ⟨own, told⟩ := told
      exact ⟨_, install_of_lookup rfl told rfl, rfl⟩
    · have unknown : (builtIn dictionaries).lookup name = none := by
        rw [builtIn, List.lookup_cons, beq_false_of_ne isSpelling, List.lookup_cons,
          beq_false_of_ne isProse]
        rfl
      have display : (Value.str name).display = name := rfl
      refine ⟨none, ?_, by simp [isRegistered, unknown]⟩
      rw [install, display, unknown]

theorem exists_installAll {dictionaries : Dictionaries}
    (english : (dictionaries.lookup SpellingChecker.fallback).isSome = true) {config : Value}
    (spelling : ∀ part, (config.entries?.getD []).field? "spelling" = some part →
      ∃ checker, (SpellingChecker.ofConfig dictionaries part).value = .ok checker)
    (names : List String) :
    ∃ checkers, ((builtIn dictionaries).installAll config (names.map .str)).value = .ok checkers ∧
      checkers.map (·.checker.name) = names.filter (builtIn dictionaries).isRegistered := by
  induction names with
  | nil => exact ⟨[], rfl, rfl⟩
  | cons name rest ih =>
    obtain ⟨installed, set, named⟩ := exists_install english spelling name
    obtain ⟨others, setAll, namedAll⟩ := ih
    refine ⟨installed.toList ++ others, ?_, ?_⟩
    · rw [List.map_cons, installAll]
      dsimp only
      rw [set]
      dsimp only
      rw [setAll]
      rfl
    · rw [List.map_append, named, namedAll, ← List.filter_append, List.singleton_append]

/-- Names that nothing is registered under are passed over. -/
theorem exists_build {dictionaries : Dictionaries}
    (english : (dictionaries.lookup SpellingChecker.fallback).isSome = true) {config : Value}
    (spelling : ∀ part, (config.entries?.getD []).field? "spelling" = some part →
      ∃ checker, (SpellingChecker.ofConfig dictionaries part).value = .ok checker)
    (enabled : ∀ part, (config.entries?.getD []).field? "enabled" = some part →
      ∃ (label : Option Label) (names : List String), part = .list label (names.map .str)) :
    ∃ checkers, ((builtIn dictionaries).build config).value = .ok checkers ∧
      checkers.map (·.checker.name) =
        (((config.field "enabled").items?.getD []).map Value.display).filter
          (builtIn dictionaries).isRegistered := by
  rcases config.field_or enabled with absent | ⟨label, names, listed⟩
  · rw [build, absent]
    exact ⟨[], rfl, rfl⟩
  · obtain ⟨checkers, set, named⟩ := exists_installAll english spelling names
    have own : ((Value.list label (names.map .str)).items?.getD []).map Value.display = names := by
      rw [Value.items?, Option.getD_some, List.map_map]
      exact List.map_id names
    rw [build, listed, own]
    cases names with
    | nil => exact ⟨[], rfl, rfl⟩
    | cons name rest => exact ⟨checkers, set, named⟩

end Registry

/-- A configuration that passes the check is fit for use: its settings can be read, with a limit
of one file or more and a dot before every extension, and its checkers can be set up, one for
each name that is registered, in order. -/
theorem Config.exists_settings_of_validate {dictionaries : Dictionaries}
    (english : (dictionaries.lookup SpellingChecker.fallback).isSome = true) {config : Value}
    (written : config.IsWrittenOut levels) (valid : validate config = .ok ()) :
    ∃ settings, LintSettings.ofConfig config = .ok settings ∧ 1 ≤ settings.scan.maxConcurrency ∧
      (∀ e ∈ settings.scan.extensions, e.toList.head? = some '.') ∧
      ∃ checkers,
        ((Registry.builtIn dictionaries).build (.ofEntries settings.checkers)).value =
          .ok checkers ∧
        checkers.map (·.checker.name) =
          ((((Value.ofEntries settings.checkers).field "enabled").items?.getD []).map
            Value.display).filter (Registry.builtIn dictionaries).isRegistered := by
  have holds : Rule.AllHold config Schema.configuration := allHold_of_validate valid
  obtain ⟨isMap, -⟩ := (Schema.allHold_fieldsOf _ _).mp holds
  obtain ⟨label, entries, rfl⟩ := Value.exists_entries_of_isMap isMap written
  have scan := LintSettings.allHold_sectionEntries "scan" holds
    (.tail _ <| .tail _ <| .tail _ <| .head _)
  have checkers := LintSettings.allHold_sectionEntries "checkers" holds
    (.tail _ <| .tail _ <| .head _)
  have writtenPart : ∀ name part,
      (LintSettings.sectionEntries (.map label entries) "checkers").field? name = some part →
        part.IsWrittenOut 4 :=
    fun _ _ found => LintSettings.isWrittenOut_sectionEntries written found
  obtain ⟨settings, read, limit, dotted⟩ := ScanSettings.exists_ofEntries fun part found =>
    Schema.hasType_of_allHold (scan _ (.tail _ <| .tail _ <| .head _) part found)
  refine ⟨_, by rw [LintSettings.ofConfig, read]; rfl, limit, dotted, ?_⟩
  apply Registry.exists_build english
  · intro part found
    have inside := checkers _ (.tail _ <| .tail _ <| .head _) part found
    obtain ⟨-, parts⟩ := (Schema.allHold_fieldsOf _ _).mp inside
    apply SpellingChecker.exists_ofConfig english
    · intro allow given
      obtain ⟨isList, -⟩ :=
        (Schema.allHold_texts allow).mp (parts _ (.tail _ <| .head _) allow given)
      exact Value.exists_items_of_isList isList ((writtenPart _ _ found).entries given)
    · intro length given
      exact Schema.hasType_of_allHold (parts _ (.tail _ <| .tail _ <| .head _) length given)
  · intro part found
    obtain ⟨isList, texts⟩ := (Schema.allHold_texts part).mp (checkers _ (.head _) part found)
    obtain ⟨label, items, rfl⟩ := Value.exists_items_of_isList isList (writtenPart _ _ found)
    obtain ⟨names, rfl⟩ := Value.exists_texts texts
    exact ⟨label, names, rfl⟩

/-- Limits that are written as real numbers, a list of names that is null, a language without a
dictionary and a checker that is not known. -/
theorem Config.exists_settings_of_validate_real_limits :
    let dictionaries : Dictionaries := [("en", [("word", 1)])]
    let config : Value :=
      .ofFields
        [("attributes", .ofFields [("target", .null)]),
         ("checkers", .ofFields
           [("enabled", .ofStrings ["prose", "grammar", "spelling"]),
            ("spelling", .ofFields
              [("language", .str "xx"), ("max_acronym_length", .float (.ofNat 3))])]),
         ("scan", .ofFields
           [("extensions", .ofStrings ["TSX"]), ("max_concurrency", .float (.ofNat 2))])]
    (dictionaries.lookup SpellingChecker.fallback).isSome = true ∧ config.IsWrittenOut levels ∧
      validate config = .ok () ∧
      ∃ settings checkers, LintSettings.ofConfig config = .ok settings ∧
        settings.scan = ⟨[".tsx"], ["node_modules", ".git"], 2⟩ ∧
        ((Registry.builtIn dictionaries).build (.ofEntries settings.checkers)).value =
          .ok checkers ∧
        checkers.map (·.checker.name) = ["prose", "spelling"] := by
  intro dictionaries config
  have english : (dictionaries.lookup SpellingChecker.fallback).isSome = true := rfl
  have written : config.IsWrittenOut levels := by
    simp [config, levels, Value.ofFields, Value.ofStrings, Value.IsWrittenOut]
  have clean : Rule.checkAll [] config Schema.configuration = [] := by decide +kernel
  have valid : validate config = .ok () := by rw [validate, Rule.violation?, clean]
  obtain ⟨settings, read, -, -, checkers, set, named⟩ :=
    exists_settings_of_validate english written valid
  have scan : (LintSettings.ofConfig config).toOption.map (·.scan) =
      some ⟨[".tsx"], ["node_modules", ".git"], 2⟩ := by decide +kernel
  have names : (LintSettings.ofConfig config).toOption.map (fun settings =>
      ((((Value.ofEntries settings.checkers).field "enabled").items?.getD []).map
        Value.display).filter (Registry.builtIn dictionaries).isRegistered) =
      some ["prose", "spelling"] := by decide +kernel
  rw [read] at scan names
  exact ⟨english, written, valid, settings, checkers, read, Option.some.inj scan, set,
    named.trans (Option.some.inj names)⟩

end MarkupLint
