import MarkupLint.Config.Error
import MarkupLint.Value.Convert

/-!
The shape of a valid configuration: a list of rules for a value, the rules for its parts
among them.

A configuration may break several rules.  The one reported lies at the shortest place;
of several such places the greatest one counts, and at one place the rule that comes
first.
-/
namespace MarkupLint

inductive ValueType where
  | object
  | array
  | string
  | number
  | integer
  | boolean
  | null
  deriving DecidableEq, Repr

def ValueType.name : ValueType → String
  | object => "object"
  | array => "array"
  | string => "string"
  | number => "number"
  | integer => "integer"
  | boolean => "boolean"
  | null => "null"

/-- Truth values are no numbers, and a number without a fraction is an integer however
it is written. -/
def Value.hasType (value : Value) : ValueType → Bool
  | .object => value.isMap
  | .array => value.isList
  | .string => match value with | .scalar (.str _) => true | _ => false
  | .number =>
      match value with
      | .scalar (.int _) | .scalar (.float _) | .scalar (.nan _) => true
      | _ => false
  | .integer =>
      match value with
      | .scalar (.int _) => true
      | .scalar (.float x) => x.isIntegral
      | _ => false
  | .boolean => match value with | .scalar (.bool _) => true | _ => false
  | .null => value.isNull

inductive Rule where
  | oneOfTypes (types : List ValueType)
  | items (rules : List Rule)
  | properties (fields : List (String × List Rule))
  | otherProperties (rules : List Rule)
  | nonEmpty
  | oneOf (texts : List String)
  | atLeast (least : Int)
  | above (bound : Int)

/-- A rule that is broken: where, what is wrong, and whether all that has to be written to say
so has a text. -/
structure Violation where
  place : List Scalar
  problem : String
  isWritable : Bool := true
  deriving DecidableEq, Repr

namespace Rule

def typesText (types : List ValueType) : String :=
  ", ".intercalate (types.map fun type => "'" ++ type.name ++ "'")

/-- Whether a numeric value is below an integer; other values are not. -/
def isBelow (value : Value) (n : Int) : Bool :=
  match value with
  | .scalar (.int m) => decide (m < n)
  | .scalar (.float x) => x.lessThan n
  | _ => false

def isAtMost (value : Value) (n : Int) : Bool :=
  match value with
  | .scalar (.int m) => decide (m ≤ n)
  | .scalar (.float x) => x.atMost n
  | _ => false

def isEmptyText : Value → Bool
  | .scalar (.str s) => s.isEmpty
  | _ => false

def isOneOf (texts : List String) : Value → Bool
  | .scalar (.str s) => texts.contains s
  | _ => false

/-- A violation by a value; messages open with the value. -/
def violation (place : List Scalar) (value : Value) (problem : String) : Violation :=
  ⟨place, value.quoted ++ problem, value.isWritable⟩

/-- A place in a mapping; the null key adds nothing to it. -/
def inside (place : List Scalar) : Scalar → List Scalar
  | .null => place
  | key => place ++ [key]

/-- Entries by the texts of their keys. -/
def byText (entries : Entries) : Entries :=
  entries.mergeSort fun a b => decide (a.1.display ≤ b.1.display)

mutual

/-- The violations of a rule by a value at a place. -/
def check (place : List Scalar) (value : Value) : Rule → List Violation
  | .oneOfTypes types =>
      if types.any value.hasType then []
      else [violation place value (" is not of type " ++ typesText types)]
  | .items rules =>
      ((value.items?.getD []).zipIdx.map fun (item, index) =>
        checkAll (place ++ [.int index]) item rules).flatten
  | .properties fields =>
      match value with
      | .map _ entries => checkFields place entries fields
      | _ => []
  | .otherProperties rules =>
      match value with
      | .map _ entries =>
          if entries.all fun entry => entry.1.isWritable then
            ((byText entries).map fun (key, part) =>
              checkAll (inside place key) part rules).flatten
          else [⟨place, "", false⟩]
      | _ => []
  | .nonEmpty =>
      if isEmptyText value then [violation place value " should be non-empty"] else []
  | .oneOf texts =>
      if isOneOf texts value then []
      else [violation place value (" is not one of " ++ (Value.ofStrings texts).quoted)]
  | .atLeast least =>
      if isBelow value least then
        [violation place value (" is less than the minimum of " ++ toString least)]
      else []
  | .above bound =>
      if isAtMost value bound then
        [violation place value (" is less than or equal to the minimum of " ++ toString bound)]
      else []

def checkAll (place : List Scalar) (value : Value) : List Rule → List Violation
  | [] => []
  | rule :: rest => check place value rule ++ checkAll place value rest

def checkFields (place : List Scalar) (entries : Entries) :
    List (String × List Rule) → List Violation
  | [] => []
  | (name, rules) :: rest =>
      (match Entries.field? entries name with
        | some part => checkAll (place ++ [.str name]) part rules
        | none => []) ++ checkFields place entries rest

end

end Rule

/-- Why no violation can be chosen for the report. -/
inductive ReportError where
  /-- Two parts of places that have no order between them, the later one first. -/
  | unordered (left right : String)
  /-- A day and a moment as parts of places. -/
  | dayAndMoment
  /-- A moment with an offset and one without as parts of places. -/
  | offsets
  /-- A whole number that is too long to be written. -/
  | unwritable
  deriving DecidableEq, Repr

def ReportError.message : ReportError → String
  | unordered left right =>
      "'>' not supported between instances of '" ++ left ++ "' and '" ++ right ++ "'"
  | dayAndMoment => "can't compare datetime.datetime to datetime.date"
  | offsets => "can't compare offset-naive and offset-aware datetimes"
  | unwritable => ConversionError.unwritable.message

namespace Violation

def instantGreater : Instant → Instant → Except ReportError Bool
  | .day m, .day n => .ok (decide (n < m))
  | .moment u m, .moment v n => if u = v then .ok (decide (n < m)) else .error .offsets
  | _, _ => .error .dayAndMoment

/-- Whether a row of bytes comes after another. -/
def bytesGreater : List UInt8 → List UInt8 → Bool
  | [], _ => false
  | _ :: _, [] => true
  | a :: as, b :: bs => if a = b then bytesGreater as bs else decide (b < a)

/-- The real number of a number. -/
def real? : Scalar → Option Double
  | .bool b => some (.ofNat (if b then 1 else 0))
  | .float x => some x
  | .nan _ => some .nan
  | _ => none

/-- Whether a key is greater than another: texts by their characters, numbers by value, points
in time by when they are.  Keys of different sorts cannot be compared. -/
def keyGreater (a b : Scalar) : Except ReportError Bool :=
  match a, b with
  | .str s, .str t => .ok (decide (t < s))
  | .bytes s, .bytes t => .ok (bytesGreater s t)
  | .time _ s, .time _ t => instantGreater s.instant t.instant
  | .int m, .int n => .ok (decide (n < m))
  | .int m, b => against b (·.lessThan m)
  | a, .int n => against a fun x => x != .nan && !x.atMost n
  | a, b =>
      match real? a, real? b with
      | some x, some y => .ok (y.below x)
      | _, _ => unordered
where
  unordered : Except ReportError Bool :=
    .error (.unordered (Value.scalar a).fullKindName (Value.scalar b).fullKindName)
  against (s : Scalar) (test : Double → Bool) : Except ReportError Bool :=
    match real? s with
    | some x => .ok (test x)
    | none => unordered

/-- Whether a place is greater than another, by its first key that differs. -/
def placeGreater : List Scalar → List Scalar → Except ReportError Bool
  | a :: as, b :: bs => if a.same b then placeGreater as bs else keyGreater a b
  | [], _ => .ok false
  | _ :: _, [] => .ok true

/-- Whether `v` is to be reported rather than `best`, which was found before it. -/
def beats (v best : Violation) : Except ReportError Bool :=
  if v.place.length < best.place.length then .ok true
  else if best.place.length < v.place.length then .ok false
  else placeGreater v.place best.place

/-- The violation to report, given the best so far.  Each one is written down as it is met. -/
def worst (best : Violation) : List Violation → Except ReportError Violation
  | [] => if best.place.all Scalar.isWritable then .ok best else .error .unwritable
  | v :: rest =>
      if v.isWritable then
        match beats v best with
        | .ok true => worst v rest
        | .ok false => worst best rest
        | .error e => .error e
      else .error .unwritable

end Violation

/-- The violation that is reported, if the value breaks any rule. -/
def Rule.violation? (rules : List Rule) (value : Value) : Except ReportError (Option Violation) :=
  match Rule.checkAll [] value rules with
  | [] => .ok none
  | first :: rest =>
      if first.isWritable then (Violation.worst first rest).map some else .error .unwritable

namespace Schema

def text : List Rule := [.oneOfTypes [.string]]

def marker : List Rule := [.oneOfTypes [.string], .nonEmpty]

def texts : List Rule := [.oneOfTypes [.array], .items text]

def optionalTexts : List Rule := [.oneOfTypes [.array, .null], .items text]

def fieldsOf (fields : List (String × List Rule)) : List Rule :=
  [.oneOfTypes [.object], .properties fields]

def mappingOf (rules : List Rule) : List Rule :=
  [.oneOfTypes [.object], .otherProperties rules]

/-- The shape of the whole configuration. -/
def configuration : List Rule :=
  fieldsOf
    [("attributes", fieldsOf [("target", optionalTexts), ("ignore", optionalTexts)]),
     ("directives",
      fieldsOf [("region_start", marker), ("region_end", marker), ("single", marker)]),
     ("checkers", fieldsOf
       [("enabled", texts),
        ("timeout_seconds", [.oneOfTypes [.number], .above 0]),
        ("spelling", fieldsOf
          [("language", text), ("allow", texts),
           ("max_acronym_length", [.oneOfTypes [.integer], .atLeast 0])]),
        ("prose", fieldsOf
          [("rules", mappingOf [.oneOfTypes [.boolean]]),
           ("forbidden_phrases", mappingOf text)])]),
     ("scan", fieldsOf
       [("extensions", texts), ("exclude_dirs", texts),
        ("max_concurrency", [.oneOfTypes [.integer], .atLeast 1])]),
     ("logging", fieldsOf
       [("level",
         [.oneOfTypes [.string], .oneOf ["DEBUG", "INFO", "WARNING", "ERROR", "CRITICAL"]])])]

end Schema

end MarkupLint
