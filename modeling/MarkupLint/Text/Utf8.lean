/-!
UTF-8.  `decode` gives one entry for each character, and one empty entry for each piece that
cannot be read: the longest beginning of a character, or else a single byte.
-/
namespace MarkupLint.Utf8

def isTail (b : Nat) : Bool := 0x80 ≤ b && b ≤ 0xBF

def tailBits (b : Nat) : Nat := b % 64

/-- Bounds of the second byte of a character by its first, with the bits of the first and
the number of bytes that follow. -/
structure Lead where
  low : Nat
  high : Nat
  bits : Nat
  tails : Nat

def lead? (b : Nat) : Option Lead :=
  if 0xC2 ≤ b ∧ b ≤ 0xDF then some ⟨0x80, 0xBF, b - 0xC0, 1⟩
  else if 0xE0 ≤ b ∧ b ≤ 0xEF then
    some ⟨if b = 0xE0 then 0xA0 else 0x80, if b = 0xED then 0x9F else 0xBF, b - 0xE0, 2⟩
  else if 0xF0 ≤ b ∧ b ≤ 0xF4 then
    some ⟨if b = 0xF0 then 0x90 else 0x80, if b = 0xF4 then 0x8F else 0xBF, b - 0xF0, 3⟩
  else none

/-- Read the bytes that are still owed; the count is of those that could be read. -/
def readTails : Nat → Nat → Nat → List UInt8 → Option Nat × Nat
  | 0, code, count, _ => (some code, count)
  | owed + 1, code, count, b :: rest =>
      if isTail b.toNat then readTails owed (code * 64 + tailBits b.toNat) (count + 1) rest
      else (none, count)
  | _ + 1, _, count, [] => (none, count)

/-- The character that starts with a byte, and how many further bytes it or its readable
beginning covers. -/
def readChar (b : UInt8) (rest : List UInt8) : Option Char × Nat :=
  if b < 0x80 then (some (Char.ofNat b.toNat), 0)
  else
    match lead? b.toNat, rest with
    | some lead, second :: more =>
        if lead.low ≤ second.toNat ∧ second.toNat ≤ lead.high then
          let (code, count) :=
            readTails (lead.tails - 1) (lead.bits * 64 + tailBits second.toNat) 1 more
          (code.map Char.ofNat, count)
        else (none, 0)
    | _, _ => (none, 0)

def decodeFrom : Nat → List UInt8 → List (Option Char)
  | _, [] => []
  | covered + 1, _ :: rest => decodeFrom covered rest
  | 0, b :: rest =>
      let (char, covered) := readChar b rest
      char :: decodeFrom covered rest

def decode (bytes : List UInt8) : List (Option Char) :=
  decodeFrom 0 bytes

/-- What stands for a piece that cannot be read. -/
def replacement : Char := Char.ofNat 0xFFFD

def lossy (bytes : List UInt8) : List Char :=
  (decode bytes).map (·.getD replacement)

/-- The text, if all of it can be read. -/
def strict? (bytes : List UInt8) : Option (List Char) :=
  (decode bytes).mapM id

def encode (text : String) : List UInt8 :=
  text.toUTF8.toList

end MarkupLint.Utf8
