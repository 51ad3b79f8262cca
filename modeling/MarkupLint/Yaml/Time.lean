import MarkupLint.Text.Digit
import MarkupLint.Value.Basic
import MarkupLint.Yaml.Fault

/-!
Points in time: a date, or a date and a time of day, with an offset from universal time if
one is given.  Only plain dates of ten characters stand for themselves; with a time of day
month and day may have one digit.
-/
namespace MarkupLint.Yaml.Time

open MarkupLint.Text

/-- The parts of a point in time as written. -/
structure Parts where
  year : Nat
  month : Nat
  day : Nat
  /-- Month and day have two digits. -/
  full : Bool
  /-- Hour, minute, second, the digits after the point, and the offset in minutes. -/
  clock : Option (Nat × Nat × Nat × List Char × Option Int)

def number (digits : List Char) : Nat :=
  ofDigits 10 (digits.map fun d => d.toNat - 48)

/-- Up to `most` digits, but at least `least`. -/
def digits? (least most : Nat) (text : List Char) : Option (Nat × Nat × List Char) :=
  let run := (text.take most).takeWhile isAsciiDigit
  if least ≤ run.length then some (number run, run.length, text.drop run.length) else none

def mark? (c : Char) : List Char → Option (List Char)
  | d :: rest => if c = d then some rest else none
  | [] => none

/-- An offset: `Z`, or a sign, hours, and minutes after a colon. -/
def offset? : List Char → Option (Option Int)
  | [] => some none
  | ['Z'] => some (some 0)
  | sign :: rest =>
      if sign = '+' ∨ sign = '-' then
        match digits? 1 2 rest with
        | none => none
        | some (hours, _, rest) =>
            let minutes : Option Nat :=
              match rest with
              | [] => some 0
              | ':' :: rest => (digits? 2 2 rest).bind fun (minutes, _, rest) =>
                  if rest.isEmpty then some minutes else none
              | _ => none
            minutes.map fun minutes =>
              let total : Int := hours * 60 + minutes
              some (if sign = '-' then -total else total)
      else none

def clock? (text : List Char) : Option (Nat × Nat × Nat × List Char × Option Int) := do
  let (hour, _, rest) ← digits? 1 2 text
  let (minute, _, rest) ← digits? 2 2 (← mark? ':' rest)
  let (second, _, rest) ← digits? 2 2 (← mark? ':' rest)
  let (fraction, rest) :=
    match rest with
    | '.' :: rest => rest.span isAsciiDigit
    | rest => ([], rest)
  let end_ := rest.dropWhile fun c => c == ' ' || c == '\t'
  if end_.isEmpty && !rest.isEmpty then none
  else
    let offset ← offset? end_
    return (hour, minute, second, fraction, offset)

/-- The parts of a text that has the form of a point in time. -/
def parts? (text : List Char) : Option Parts := do
  let (year, _, rest) ← digits? 4 4 text
  let (month, monthLength, rest) ← digits? 1 2 (← mark? '-' rest)
  let (day, dayLength, rest) ← digits? 1 2 (← mark? '-' rest)
  let full := monthLength = 2 ∧ dayLength = 2
  if rest.isEmpty then return ⟨year, month, day, full, none⟩
  let gap := rest.takeWhile fun c => c == ' ' || c == '\t'
  let rest ←
    if gap.isEmpty then (mark? 'T' rest).or (mark? 't' rest) else some (rest.drop gap.length)
  return ⟨year, month, day, full, some (← clock? rest)⟩

/-- Whether a plain scalar is a point in time. -/
def isPlain (text : List Char) : Bool :=
  (parts? text).any fun parts => parts.full || parts.clock.isSome

/-- Fractions of a second are kept to six digits. -/
def micros (fraction : List Char) : Nat :=
  let digits := fraction.take 6
  number (digits ++ List.replicate (6 - digits.length) '0')

def dateFault? (p : Parts) : Option DateFault :=
  if p.year = 0 then some .year
  else if p.month = 0 ∨ 12 < p.month then some .month
  else if p.day = 0 ∨ Date.daysIn p.year p.month < p.day then some .day
  else none

def offsetFault? (offset : Option Int) : Option DateFault :=
  match offset with
  | some minutes => if 1440 ≤ minutes.natAbs then some (.offset minutes) else none
  | none => none

def clockFault? (hour minute second : Nat) : Option DateFault :=
  if 23 < hour then some .hour
  else if 59 < minute then some .minute
  else if 59 < second then some .second
  else none

/-- The point in time that parts stand for; the offset is looked at first. -/
def timestamp (p : Parts) : Except DateFault Timestamp :=
  let date : Date := ⟨p.year, p.month, p.day⟩
  match p.clock with
  | none => ((dateFault? p).map .error).getD (.ok ⟨date, none⟩)
  | some (hour, minute, second, fraction, offset) =>
      match (offsetFault? offset).or ((dateFault? p).or (clockFault? hour minute second)) with
      | some fault => .error fault
      | none => .ok ⟨date, some ⟨hour, minute, second, micros fraction, offset⟩⟩

end MarkupLint.Yaml.Time
