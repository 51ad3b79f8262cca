import Mathlib.Logic.Basic
import MarkupLint.Config.Load

/-!
What the rules of a schema ask of a value, told without the places and the messages that a
check gives (`Rule.Holds`). Main statement: a check finds nothing just where the rules hold, so
a configuration that passes has all that the schema asks for.
-/
namespace MarkupLint

namespace Rule

mutual

/-- What a rule asks of a value. -/
def Holds (value : Value) : Rule → Prop
  | .oneOfTypes types => ∃ type ∈ types, value.hasType type = true
  | .items rules => ∀ item ∈ value.items?.getD [], AllHold item rules
  | .properties fields => FieldsHold (value.entries?.getD []) fields
  | .otherProperties rules =>
      ∀ entry ∈ value.entries?.getD [], entry.1.isWritable = true ∧ AllHold entry.2 rules
  | .nonEmpty => isEmptyText value = false
  | .oneOf texts => isOneOf texts value = true
  | .atLeast least => isBelow value least = false
  | .above bound => isAtMost value bound = false

def AllHold (value : Value) : List Rule → Prop
  | [] => True
  | rule :: rest => Holds value rule ∧ AllHold value rest

/-- A key that a mapping leaves out breaks no rule. -/
def FieldsHold (entries : Entries) : List (String × List Rule) → Prop
  | [] => True
  | (name, rules) :: rest =>
      (∀ part, Entries.field? entries name = some part → AllHold part rules) ∧
        FieldsHold entries rest

end

mutual

def decidableHolds (value : Value) : (rule : Rule) → Decidable (Holds value rule)
  | .oneOfTypes types => inferInstanceAs (Decidable (∃ type ∈ types, value.hasType type = true))
  | .items rules =>
    have := fun item => decidableAllHold item rules
    inferInstanceAs (Decidable (∀ item ∈ value.items?.getD [], AllHold item rules))
  | .properties fields => decidableFieldsHold (value.entries?.getD []) fields
  | .otherProperties rules =>
    have := fun part => decidableAllHold part rules
    inferInstanceAs (Decidable (∀ entry ∈ value.entries?.getD [],
      entry.1.isWritable = true ∧ AllHold entry.2 rules))
  | .nonEmpty => inferInstanceAs (Decidable (isEmptyText value = false))
  | .oneOf texts => inferInstanceAs (Decidable (isOneOf texts value = true))
  | .atLeast least => inferInstanceAs (Decidable (isBelow value least = false))
  | .above bound => inferInstanceAs (Decidable (isAtMost value bound = false))

def decidableAllHold (value : Value) : (rules : List Rule) → Decidable (AllHold value rules)
  | [] => isTrue trivial
  | rule :: rest =>
    @instDecidableAnd _ _ (decidableHolds value rule) (decidableAllHold value rest)

def decidableFieldsHold (entries : Entries) :
    (fields : List (String × List Rule)) → Decidable (FieldsHold entries fields)
  | [] => isTrue trivial
  | (name, rules) :: rest =>
    have := fun part => decidableAllHold part rules
    @instDecidableAnd _ _
      (inferInstanceAs (Decidable (∀ part ∈ Entries.field? entries name, AllHold part rules)))
      (decidableFieldsHold entries rest)

end

instance (value : Value) (rules : List Rule) : Decidable (AllHold value rules) :=
  decidableAllHold value rules

theorem checkFields_nil (place : List Scalar) (fields : List (String × List Rule)) :
    checkFields place [] fields = [] := by
  induction fields with
  | nil => rfl
  | cons field rest ih => rw [checkFields, ih]; rfl

/-- Parts are checked at places of their own, which makes no difference to whether a rule is
broken. -/
theorem forall_zipIdx_iff {items : List Value} {p : Value → Prop} :
    (∀ item ∈ items.zipIdx, p item.1) ↔ ∀ item ∈ items, p item := by
  rw [← List.forall_mem_map, List.zipIdx_map_fst]

mutual

theorem check_eq_nil_iff (place : List Scalar) (value : Value) :
    (rule : Rule) → (check place value rule = [] ↔ Holds value rule)
  | .oneOfTypes types => by
    rw [check, Holds, ← List.any_eq_true]
    split <;> simp_all
  | .items rules => by
    rw [check, Holds, List.flatten_eq_nil_iff, List.forall_mem_map, ← forall_zipIdx_iff]
    exact forall₂_congr fun item _ => checkAll_eq_nil_iff _ item.1 rules
  | .properties fields => by
    rw [Holds, ← checkFields_eq_nil_iff place]
    cases value with
    | map label entries => rfl
    | _ => simp [check, Value.entries?, checkFields_nil]
  | .otherProperties rules => by
    rw [Holds]
    cases value with
    | map label entries =>
      rw [check, Value.entries?, Option.getD_some, forall₂_and]
      split
      next writable =>
        have each : ∀ entry : Scalar × Value,
            checkAll (inside place entry.1) entry.2 rules = [] ↔ AllHold entry.2 rules :=
          fun entry => checkAll_eq_nil_iff (inside place entry.1) entry.2 rules
        rw [List.all_eq_true] at writable
        simp only [List.flatten_eq_nil_iff, List.forall_mem_map, byText, List.mem_mergeSort, each]
        exact (and_iff_right writable).symm
      next unwritable =>
        rw [List.all_eq_true] at unwritable
        exact iff_of_false (List.cons_ne_nil _ _) fun holds => unwritable holds.1
    | _ => simp [check, Value.entries?]
  | .nonEmpty => by
    rw [check, Holds]
    split <;> simp_all
  | .oneOf texts => by
    rw [check, Holds]
    split <;> simp_all
  | .atLeast least => by
    rw [check, Holds]
    split <;> simp_all
  | .above bound => by
    rw [check, Holds]
    split <;> simp_all

theorem checkAll_eq_nil_iff (place : List Scalar) (value : Value) :
    (rules : List Rule) → (checkAll place value rules = [] ↔ AllHold value rules)
  | [] => by simp [checkAll, AllHold]
  | rule :: rest => by
    rw [checkAll, AllHold, List.append_eq_nil_iff, check_eq_nil_iff place value rule,
      checkAll_eq_nil_iff place value rest]

theorem checkFields_eq_nil_iff (place : List Scalar) (entries : Entries) :
    (fields : List (String × List Rule)) →
      (checkFields place entries fields = [] ↔ FieldsHold entries fields)
  | [] => by simp [checkFields, FieldsHold]
  | (name, rules) :: rest => by
    rw [checkFields, FieldsHold, List.append_eq_nil_iff, checkFields_eq_nil_iff place entries rest]
    refine and_congr_left fun _ => ?_
    cases found : Entries.field? entries name with
    | none => simp
    | some part => simpa using checkAll_eq_nil_iff (place ++ [.str name]) part rules

end

theorem fieldsHold_iff (entries : Entries) (fields : List (String × List Rule)) :
    FieldsHold entries fields ↔
      ∀ field ∈ fields, ∀ part, entries.field? field.1 = some part → AllHold part field.2 := by
  induction fields with
  | nil => simp [FieldsHold]
  | cons field rest ih => rw [FieldsHold, ih, List.forall_mem_cons]

end Rule

namespace Schema

theorem allHold_fieldsOf (value : Value) (fields : List (String × List Rule)) :
    Rule.AllHold value (fieldsOf fields) ↔
      value.isMap = true ∧ ∀ field ∈ fields, ∀ part,
        (value.entries?.getD []).field? field.1 = some part → Rule.AllHold part field.2 := by
  simp [fieldsOf, Rule.AllHold, Rule.Holds, Rule.fieldsHold_iff, Value.hasType]

theorem allHold_text (value : Value) : Rule.AllHold value text ↔ ∃ s, value = .str s := by
  cases value with
  | scalar s => cases s <;> simp [text, Rule.AllHold, Rule.Holds, Value.hasType]
  | _ => simp [text, Rule.AllHold, Rule.Holds, Value.hasType]

theorem allHold_texts (value : Value) :
    Rule.AllHold value texts ↔
      value.isList = true ∧ ∀ item ∈ value.items?.getD [], ∃ s, item = .str s := by
  simp only [texts, Rule.AllHold, Rule.Holds, allHold_text, List.mem_singleton, exists_eq_left,
    Value.hasType, and_true]

theorem hasType_of_allHold {value : Value} {type : ValueType} {rules : List Rule}
    (holds : Rule.AllHold value (.oneOfTypes [type] :: rules)) : value.hasType type = true := by
  obtain ⟨⟨own, member, typed⟩, -⟩ := holds
  obtain rfl := List.mem_singleton.mp member
  exact typed

end Schema

/-- What passes the check keeps to every rule. -/
theorem Config.allHold_of_validate {config : Value} (valid : Config.validate config = .ok ()) :
    Rule.AllHold config Schema.configuration := by
  rw [← Rule.checkAll_eq_nil_iff []]
  unfold Config.validate Rule.violation? at valid
  cases found : Rule.checkAll [] config Schema.configuration with
  | nil => rfl
  | cons first rest =>
    rw [found] at valid
    cases writable : first.isWritable with
    | false => simp [writable] at valid
    | true =>
      cases worst : Violation.worst first rest <;> simp [writable, worst, Except.map] at valid

theorem Config.validate_of_allHold {config : Value}
    (holds : Rule.AllHold config Schema.configuration) : Config.validate config = .ok () := by
  rw [← Rule.checkAll_eq_nil_iff []] at holds
  rw [validate, Rule.violation?, holds]

end MarkupLint
