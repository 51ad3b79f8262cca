import MarkupLint.Value.Convert

/-!
Why a YAML text gives no value: it is not well formed, or a scalar in it does not hold what
its tag promises.
-/
namespace MarkupLint.Yaml

/-- A part of a point in time that is out of its range. -/
inductive DateFault where
  | year
  | month
  | day
  | hour
  | minute
  | second
  /-- An offset of a day or more, in minutes. -/
  | offset (minutes : Int)
  deriving DecidableEq, Repr

/-- An offset as days and seconds, the seconds not negative. -/
def offsetText (minutes : Int) : String :=
  let days := minutes.fdiv 1440
  let seconds := minutes.fmod 1440 * 60
  "datetime.timedelta(days=" ++ toString days ++
    (if seconds = 0 then "" else ", seconds=" ++ toString seconds) ++ ")"

def DateFault.message : DateFault → String
  | year => "year 0 is out of range"
  | month => "month must be in 1..12"
  | day => "day is out of range for month"
  | hour => "hour must be in 0..23"
  | minute => "minute must be in 0..59"
  | second => "second must be in 0..59"
  | offset minutes =>
      "offset must be a timedelta strictly between -timedelta(hours=24) and " ++
        "timedelta(hours=24), not " ++ offsetText minutes ++ "."

inductive Fault where
  /-- The text is not YAML, or uses what is not supported. -/
  | malformed
  /-- The text ends where it has to go on. -/
  | cutOff
  /-- The bytes are not text. -/
  | undecodable
  /-- An escape for a code that no character has. -/
  | noCharacter
  /-- An escape for a code beyond 31 bits. -/
  | hugeCode
  | date (fault : DateFault)
  | conversion (error : ConversionError)
  /-- A number without any character. -/
  | emptyNumber
  | notATruthValue (text : String)
  | notATime
  /-- A point in time is looked for in what is no text. -/
  | noText (kind : String)
  deriving DecidableEq, Repr

def Fault.message : Fault → String
  | malformed | cutOff | undecodable => "not a readable YAML document"
  | noCharacter => "chr() arg not in range(0x110000)"
  | hugeCode => "Python int too large to convert to C int"
  | date fault => fault.message
  | conversion error => error.message
  | emptyNumber => "string index out of range"
  | notATruthValue text => Text.quoted text
  | notATime => "'NoneType' object has no attribute 'groupdict'"
  | noText kind => "expected string or bytes-like object, got '" ++ kind ++ "'"

/-- Whether the text itself is at fault, and not what a scalar in it stands for. -/
def Fault.isMalformed (fault : Fault) : Bool :=
  fault == .malformed || fault == .cutOff

end MarkupLint.Yaml
