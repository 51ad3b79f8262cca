import MarkupLint.Number.Reader
import MarkupLint.Value.Display

/-!
Reading whole and real numbers, and items, off values.
-/
namespace MarkupLint

/-- Why a value cannot be taken for what was asked. -/
inductive ConversionError where
  /-- Text or bytes that are no whole number in a base. -/
  | notWhole (base : Nat) (given : Scalar)
  | tooManyDigits (count : Nat)
  /-- A whole number that is too long to be written. -/
  | unwritable
  | notReal (given : Scalar)
  | noWhole (kind : String)
  | noReal (kind : String)
  | infiniteWhole
  | nanWhole
  | tooLargeForReal
  /-- JSON with too many containers inside each other. -/
  | tooDeep (object : Bool)
  | notIterable (kind : String)
  | noAttribute (kind name : String)
  | unhashable (kind : String)
  deriving DecidableEq, Repr

/-- Messages about whole numbers show no more than 200 characters of what was given. -/
def shortened : Scalar → String
  | .bytes b => (Scalar.bytes (b.take 200)).quoted
  | s => String.ofList (s.quoted.toList.take 200)

def ConversionError.message : ConversionError → String
  | .notWhole base given =>
      "invalid literal for int() with base " ++ toString base ++ ": " ++ shortened given
  | .tooManyDigits count =>
      "Exceeds the limit (4300 digits) for integer string conversion: value has " ++
        toString count ++ " digits; use sys.set_int_max_str_digits() to increase the limit"
  | .unwritable =>
      "Exceeds the limit (4300 digits) for integer string conversion; " ++
        "use sys.set_int_max_str_digits() to increase the limit"
  | .notReal given => "could not convert string to float: " ++ given.quoted
  | .noWhole kind =>
      "int() argument must be a string, a bytes-like object or a real number, not '" ++ kind ++ "'"
  | .noReal kind => "float() argument must be a string or a real number, not '" ++ kind ++ "'"
  | .infiniteWhole => "cannot convert float infinity to integer"
  | .nanWhole => "cannot convert float NaN to integer"
  | .tooLargeForReal => "int too large to convert to float"
  | .tooDeep object =>
      "maximum recursion depth exceeded while decoding a JSON " ++
        (if object then "object" else "array") ++ " from a unicode string"
  | .notIterable kind => "'" ++ kind ++ "' object is not iterable"
  | .noAttribute kind name => "'" ++ kind ++ "' object has no attribute '" ++ name ++ "'"
  | .unhashable kind => "unhashable type: '" ++ kind ++ "'"

namespace Value

/-- The whole number that characters stand for in a base; `given` is what they were read
from. -/
def wholeInBase (base : Nat) (given : Scalar) (chars : List Char) : Except ConversionError Int :=
  match Number.readInt base chars with
  | .ok n => .ok n
  | .error .malformed => .error (.notWhole base given)
  | .error (.tooManyDigits count) => .error (.tooManyDigits count)

/-- Bytes as characters, those beyond ASCII as one that belongs to no number. -/
def charsOfBytes (bytes : List UInt8) : List Char :=
  bytes.map fun b => if b < 128 then Char.ofNat b.toNat else '?'

/-- A whole number: fractions are cut off, texts and bytes are read. -/
def toWhole : Value → Except ConversionError Int
  | .scalar (.bool b) => .ok (if b then 1 else 0)
  | .scalar (.int n) => .ok n
  | .scalar (.float x) =>
      match x with
      | .nan => .error .nanWhole
      | .infinity _ => .error .infiniteWhole
      | x => .ok (x.truncate?.getD 0)
  | .scalar (.nan _) => .error .nanWhole
  | .scalar (.str s) => wholeInBase 10 (.str s) s.toList
  | .scalar (.bytes b) => wholeInBase 10 (.bytes b) (charsOfBytes b)
  | value => .error (.noWhole value.fullKindName)

def realOfChars (given : Scalar) (chars : List Char) : Except ConversionError Double :=
  ((Number.readDouble? chars).map .ok).getD (.error (.notReal given))

/-- A real number, rounded to the floating point format. -/
def toReal : Value → Except ConversionError Double
  | .scalar (.bool b) => .ok (.ofNat (if b then 1 else 0))
  | .scalar (.int n) => ((Double.ofInt? n).map .ok).getD (.error .tooLargeForReal)
  | .scalar (.float x) => .ok x
  | .scalar (.nan _) => .ok .nan
  | .scalar (.str s) => realOfChars (.str s) s.toList
  | .scalar (.bytes b) => realOfChars (.bytes b) (charsOfBytes b)
  | value => .error (.noReal value.fullKindName)

/-- The members that a container, a text (its characters) or bytes (as numbers) run through;
those of a mapping are its keys. -/
def members : Value → Except ConversionError (List Value)
  | .list _ items => .ok items
  | .pair _ a b => .ok [a, b]
  | .set _ members => .ok (members.map .scalar)
  | .map _ entries => .ok (entries.map fun entry => .scalar entry.1)
  | .scalar (.bytes b) => .ok (b.map fun byte => .int byte.toNat)
  | .scalar (.str s) => .ok (s.toList.map fun c => .str (String.singleton c))
  | value => .error (.notIterable value.fullKindName)

end Value

end MarkupLint
