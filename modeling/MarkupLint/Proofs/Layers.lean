import MarkupLint.Config.Load

/-!
What happens while a configuration is loaded, told step by step: a file is met with the mapping
that the files before it left (`Config.Meets`), and the settings of the environment are written
one after another. Loading fails where a step fails, and whatever every step keeps holds of the
configuration in the end.
-/
namespace MarkupLint.Config

variable {α β ε : Type}

theorem exists_of_bind_eq_ok {x : Except ε α} {f : α → Except ε β} {b : β}
    (done : x.bind f = .ok b) : ∃ a, x = .ok a ∧ f a = .ok b := by
  cases x with
  | error e => cases done
  | ok a => exact ⟨a, rfl, done⟩

theorem exists_of_map_eq_ok {x : Except ε α} {f : α → β} {b : β} (done : x.map f = .ok b) :
    ∃ a, x = .ok a ∧ f a = b := by
  cases x with
  | error e => cases done
  | ok a => exact ⟨a, rfl, Except.ok.inj done⟩

theorem exists_of_any_toOption {x : Except ε α} {p : α → Bool}
    (holds : x.toOption.any p = true) : ∃ a, x = .ok a ∧ p a = true := by
  cases x with
  | error e => cases holds
  | ok a => exact ⟨a, rfl, holds⟩

theorem bind_eq_error_iff {x : Except ε α} {f : α → Except ε β} {e : ε} :
    x.bind f = .error e ↔ x = .error e ∨ ∃ a, x = .ok a ∧ f a = .error e := by
  cases x <;> simp [Except.bind]

/-! ### Files -/

/-- A file with its number among the others. -/
abbrev NumberedFile := Nat × String × FileContent

def numbered (files : List (String × FileContent)) : List NumberedFile :=
  files.zipIdx.map fun (file, number) => (number, file)

theorem mem_of_mem_numbered {files : List (String × FileContent)} {file : NumberedFile}
    (member : file ∈ numbered files) : file.2 ∈ files := by
  obtain ⟨pair, there, rfl⟩ := List.mem_map.mp member
  have first : pair.1 ∈ files.zipIdx.map Prod.fst := List.mem_map_of_mem there
  rwa [List.zipIdx_map_fst] at first

def layerOf (folder : Path) (file : NumberedFile) : Except LoadError Value :=
  readLayer (folder.child file.2.1) file.1 file.2.2

/-- A layer is the mapping of a file, or has no entries. -/
theorem layerOf_cases {folder : Path} {file : NumberedFile} {layer : Value}
    (read : layerOf folder file = .ok layer) :
    layer = .ofEntries [] ∨ ∃ label entries, layer = .map label entries ∧
      Yaml.read file.1 (.ofBytes file.2.2.bytes) = .ok (.map label entries) := by
  unfold layerOf readLayer at read
  split at read
  next => cases read
  next =>
    split at read
    next value own =>
      unfold layerEntries at read
      split at read
      next => cases read; exact .inl rfl
      next label entries => cases read; exact .inr ⟨label, entries, rfl, own⟩
      next => cases read
    next => cases read
    next => cases read

def mergeFile (folder : Path) (base : Entries) (file : NumberedFile) : Except LoadError Entries :=
  (layerOf folder file).bind (lay base)

/-- A mapping is written out as a mapping. -/
theorem exists_unfoldAlong_map (label : Option Label) (entries : Entries) (other : Value) :
    ∃ own, (Value.map label entries).unfoldAlong other = .map label own := by
  unfold Value.unfoldAlong
  generalize Value.mergeLimit + _ = levels
  cases levels <;> cases other <;> exact ⟨_, rfl⟩

/-- A layer is laid over a mapping when both are written out. -/
theorem mergeLayer_of_lay {base merged : Entries} {layer : Value}
    (laid : lay base layer = .ok merged) :
    ∃ own, (Value.ofEntries base).unfoldAlong layer = .map none own ∧
      Value.mergeLayer own (layer.unfoldAlong (.ofEntries base)) = .ok merged := by
  obtain ⟨own, under⟩ := exists_unfoldAlong_map none base layer
  refine ⟨own, under, ?_⟩
  unfold lay at laid
  dsimp only at laid
  rw [Value.ofEntries, under] at laid
  split at laid
  next => cases laid
  next =>
    split at laid
    next absent => cases absent
    next entries found =>
      cases found
      split at laid
      next final done => cases laid; exact done
      next => cases laid

/-- When files are merged into a mapping, each is met with what those before it left, up to the
first that fails. -/
inductive Meets (folder : Path) : Entries → List NumberedFile → Entries → NumberedFile → Prop
  | first (base : Entries) (file : NumberedFile) (rest : List NumberedFile) :
      Meets folder base (file :: rest) base file
  | later {base next below : Entries} {file other : NumberedFile} {rest : List NumberedFile}
      (merged : mergeFile folder base file = .ok next) (more : Meets folder next rest below other) :
      Meets folder base (file :: rest) below other

section Files

variable {folder : Path} {base : Entries} {files : List NumberedFile}

theorem Meets.mem {below : Entries} {file : NumberedFile}
    (met : Meets folder base files below file) : file ∈ files := by
  induction met with
  | first base file rest => exact .head rest
  | later merged more ih => exact .tail _ ih

theorem mergeFiles_value_cons (folder : Path) (base : Entries) (file : NumberedFile)
    (rest : List NumberedFile) :
    (mergeFiles folder base (file :: rest)).value =
      (mergeFile folder base file).bind fun next => (mergeFiles folder next rest).value := by
  obtain ⟨number, name, content⟩ := file
  rw [mergeFiles]
  unfold mergeFile layerOf
  dsimp only
  cases (readLayer (folder.child name) number content).bind (lay base) <;> rfl

theorem mergeFiles_value_eq_error_iff {e : LoadError} :
    (mergeFiles folder base files).value = .error e ↔
      ∃ below file, Meets folder base files below file ∧
        mergeFile folder below file = .error e := by
  induction files generalizing base with
  | nil =>
    constructor
    · intro failed
      cases failed
    · rintro ⟨below, file, met, -⟩
      cases met
  | cons file rest ih =>
    rw [mergeFiles_value_cons, bind_eq_error_iff]
    constructor
    · rintro (fails | ⟨next, merged, failed⟩)
      · exact ⟨base, file, .first base file rest, fails⟩
      · obtain ⟨below, other, more, fails⟩ := ih.mp failed
        exact ⟨below, other, .later merged more, fails⟩
    · rintro ⟨below, other, met, fails⟩
      cases met with
      | first => exact .inl fails
      | later merged more => exact .inr ⟨_, merged, ih.mpr ⟨below, other, more, fails⟩⟩

/-- What each file keeps holds when all are merged. -/
theorem mergeFiles_invariant {p : Entries → Prop} {final : Entries} (start : p base)
    (keeps : ∀ below file next, Meets folder base files below file → p below →
      mergeFile folder below file = .ok next → p next)
    (done : (mergeFiles folder base files).value = .ok final) : p final := by
  induction files generalizing base with
  | nil =>
    cases done
    exact start
  | cons file rest ih =>
    rw [mergeFiles_value_cons] at done
    obtain ⟨next, merged, done⟩ := exists_of_bind_eq_ok done
    exact ih (keeps base file next (.first base file rest) start merged)
      (fun below other next more => keeps below other next (.later merged more)) done

end Files

/-! ### Settings of the environment -/

section Settings

variable {base : Entries} {settings : List (String × String)}

theorem overrideAll_value_cons (base : Entries) (setting : String × String)
    (rest : List (String × String)) :
    (overrideAll base (setting :: rest)).value =
      (override base setting).value.bind fun next => (overrideAll next rest).value := by
  rw [overrideAll]
  dsimp only
  cases (override base setting).value <;> rfl

theorem overrideAll_value_append (base : Entries) (front back : List (String × String)) :
    (overrideAll base (front ++ back)).value =
      (overrideAll base front).value.bind fun next => (overrideAll next back).value := by
  induction front generalizing base with
  | nil => rfl
  | cons setting rest ih =>
    rw [List.cons_append, overrideAll_value_cons, overrideAll_value_cons]
    cases (override base setting).value with
    | error e => rfl
    | ok next => exact ih next

theorem exists_override_of_overrideAll_eq_error {e : LoadError}
    (failed : (overrideAll base settings).value = .error e) :
    ∃ setting ∈ settings, ∃ below, (override below setting).value = .error e := by
  induction settings generalizing base with
  | nil => cases failed
  | cons setting rest ih =>
    rw [overrideAll_value_cons, bind_eq_error_iff] at failed
    rcases failed with fails | ⟨next, -, failed⟩
    · exact ⟨setting, .head rest, base, fails⟩
    · obtain ⟨other, member, below, fails⟩ := ih failed
      exact ⟨other, .tail _ member, below, fails⟩

/-- What each setting keeps holds when all are written. -/
theorem overrideAll_invariant {p : Entries → Prop} {final : Entries} (start : p base)
    (keeps : ∀ setting ∈ settings, ∀ below next, p below →
      (override below setting).value = .ok next → p next)
    (done : (overrideAll base settings).value = .ok final) : p final := by
  induction settings generalizing base with
  | nil =>
    cases done
    exact start
  | cons setting rest ih =>
    rw [overrideAll_value_cons] at done
    obtain ⟨next, written, done⟩ := exists_of_bind_eq_ok done
    exact ih (keeps setting (.head rest) base next start written)
      (fun other member => keeps other (.tail _ member)) done

theorem mem_overrides {environment : List (String × String)} {setting : String × String} :
    setting ∈ overrides environment ↔
      setting ∈ environment ∧ overridePrefix.toList.isPrefixOf setting.1.toList = true := by
  rw [overrides, List.mem_mergeSort, List.mem_filter]

theorem overrides_singleton {name text : String}
    (begins : overridePrefix.toList.isPrefixOf name.toList = true) :
    overrides [(name, text)] = [(name, text)] := by
  have kept : [(name, text)].filter (fun v => overridePrefix.toList.isPrefixOf v.1.toList) =
      [(name, text)] := List.filter_cons_of_pos begins
  rw [overrides, kept, List.mergeSort_singleton]

/-- A variable that is no override leaves the configuration alone; any other has a path and a
value, and is written. -/
theorem override_cases {setting : String × String} {next : Entries}
    (written : (override base setting).value = .ok next) :
    (Override.path? setting.1 = none ∧ next = base) ∨
      ∃ path value, Override.path? setting.1 = some (.ok path) ∧
        Override.coerce setting.2 = .ok value ∧ Override.set base path value = .ok next := by
  unfold override at written
  cases named : Override.path? setting.1 with
  | none =>
    rw [named] at written
    cases written
    exact .inl ⟨rfl, rfl⟩
  | some own =>
    rw [named] at written
    cases own with
    | error e => cases written
    | ok path =>
      dsimp only at written
      cases read : Override.coerce setting.2 with
      | error e => rw [read] at written; cases written
      | ok value =>
        rw [read] at written
        dsimp only at written
        cases done : Override.set base path value with
        | error e => rw [done] at written; cases written
        | ok final =>
          rw [done] at written
          cases written
          exact .inr ⟨path, value, rfl, rfl, done⟩

end Settings

/-! ### The whole -/

theorem merge_value (source : ConfigSource) :
    (merge source).value =
      (mergeFiles source.folder bundled (numbered source.files)).value.bind fun merged =>
        (overrideAll merged (overrides source.environment)).value.map writtenOut := by
  unfold merge numbered
  dsimp only
  split
  next e found =>
    rw [found]
    rfl
  next merged found =>
    rw [found]
    rfl

theorem load_value (source : ConfigSource) (check : Bool) :
    (load source check).value =
      (merge source).value.bind fun entries =>
        if check then (validate (.ofEntries entries)).map fun _ => entries else .ok entries := by
  unfold load
  dsimp only
  cases (merge source).value <;> rfl

/-- A configuration that is loaded comes from files that were merged and from settings that were
written. -/
theorem exists_of_load_eq_ok {source : ConfigSource} {check : Bool} {final : Entries}
    (done : (load source check).value = .ok final) :
    ∃ merged written,
      (mergeFiles source.folder bundled (numbered source.files)).value = .ok merged ∧
      (overrideAll merged (overrides source.environment)).value = .ok written ∧
      final = writtenOut written := by
  rw [load_value] at done
  obtain ⟨entries, made, done⟩ := exists_of_bind_eq_ok done
  have same : entries = final := by
    cases check with
    | false => cases done; rfl
    | true =>
      obtain ⟨-, -, same⟩ := exists_of_map_eq_ok done
      exact same
  rw [merge_value] at made
  obtain ⟨merged, files, made⟩ := exists_of_bind_eq_ok made
  obtain ⟨written, settings, out⟩ := exists_of_map_eq_ok made
  exact ⟨merged, written, files, settings, (out.trans same).symm⟩

/-- What can be told of the merged files and of the configuration without running a load. -/
theorem exists_load_of_any {source : ConfigSource} {settings : List (String × String)}
    {p : Entries → Entries → Bool} (sorted : overrides source.environment = settings)
    (holds : ((mergeFiles source.folder bundled (numbered source.files)).value.toOption.any
      fun merged => (overrideAll merged settings).value.toOption.any
        fun written => p merged (writtenOut written)) = true) :
    ∃ merged final, (mergeFiles source.folder bundled (numbered source.files)).value = .ok merged ∧
      (load source false).value = .ok final ∧ p merged final = true := by
  obtain ⟨merged, files, holds⟩ := exists_of_any_toOption holds
  obtain ⟨written, wrote, holds⟩ := exists_of_any_toOption holds
  refine ⟨merged, writtenOut written, files, ?_, holds⟩
  rw [load_value, merge_value, files, sorted]
  dsimp only [Except.bind]
  rw [wrote]
  rfl

end MarkupLint.Config
