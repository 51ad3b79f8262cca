import MarkupLint.Text.Utf8
import MarkupLint.Yaml.Fault

/-!
The text of a YAML file as a reader gets it: in groups, the first of two pieces and the others
of one, each looked over as a whole when it is reached.  A byte that is not text, or a
character that YAML forbids, spoils its group and all that lies behind it, but nothing before.

Bytes are taken from the file in chunks, and a chunk is made text as a whole.
-/
namespace MarkupLint.Yaml

/-- The characters that a YAML text may hold. -/
def isAllowed (c : Char) : Bool :=
  let n := c.toNat
  n == 9 || n == 10 || n == 13 || (0x20 ≤ n && n ≤ 0x7E) || n == 0x85 ||
    (0xA0 ≤ n && n ≤ 0xFFFD) || 0x10000 ≤ n

/-- A readable text and the fault that is met behind it, if there is one. -/
structure Supply where
  text : List Char
  behind : Option Fault := none
  deriving DecidableEq, Repr

/-- A character with the number of bytes it takes; nothing stands for bytes that are not
text. -/
abbrev Measured := Option Char × Nat

def measureFrom : Nat → List UInt8 → List Measured
  | _, [] => []
  | covered + 1, _ :: rest => measureFrom covered rest
  | 0, b :: rest =>
      let (char, covered) := Utf8.readChar b rest
      (char, covered + 1) :: measureFrom covered rest

/-- Line ends unified. -/
def unifyMeasured : List Measured → List Measured
  | [] => []
  | (some '\r', n) :: (some '\n', m) :: rest => (some '\n', n + m) :: unifyMeasured rest
  | (some '\r', n) :: rest => (some '\n', n) :: unifyMeasured rest
  | c :: rest => c :: unifyMeasured rest

/-- How a file is read: what is left of it, the characters that were made from its bytes but
not handed out, and the measures of the last chunk, by which the next is chosen. -/
structure Intake where
  file : List Measured
  ready : List Char := []
  chunkBytes : Nat := 0
  chunkChars : Nat := 0
  /-- Bytes that were read of a character whose end is still to come. -/
  begun : Nat := 0

namespace Intake

def leastChunk : Nat := 8192

def pieceLength : Nat := 4096

/-- The bytes that the next chunk has, given how many characters are wanted. -/
def chunkSize (intake : Intake) (wanted : Nat) : Nat :=
  max leastChunk
    (if intake.chunkChars < intake.chunkBytes then
      intake.chunkBytes * wanted / max 1 intake.chunkChars
    else wanted)

/-- The characters that lie within a number of bytes, the bytes that are left over, and the
file behind them; nothing if some of the bytes are not text. -/
def within : Nat → List Char → List Measured → Option (List Char × Nat × List Measured)
  | room, taken, [] => some (taken.reverse, room, [])
  | room, taken, (c, n) :: rest =>
      if room = 0 then some (taken.reverse, 0, (c, n) :: rest)
      else
        match c with
        | none => none
        | some char =>
            if n ≤ room then within (room - n) (char :: taken) rest
            else some (taken.reverse, room, (c, n) :: rest)

/-- Read a chunk; nothing if its bytes are not text. -/
def chunk (wanted : Nat) (intake : Intake) : Option Intake :=
  let size := intake.chunkSize wanted
  (within (size + intake.begun) [] intake.file).map fun (chars, left, rest) =>
    { file := rest
      ready := intake.ready ++ chars
      chunkBytes := size
      chunkChars := chars.length
      begun := left }

/-- Read a piece: as many characters as there are, but no more than its length. -/
def piece : Nat → Intake → Option (List Char × Intake)
  | 0, intake => some ([], intake)
  | fuel + 1, intake =>
      if pieceLength ≤ intake.ready.length || intake.file.isEmpty then
        some (intake.ready.take pieceLength,
          { intake with ready := intake.ready.drop pieceLength })
      else (intake.chunk (pieceLength - intake.ready.length)).bind (piece fuel)

/-- Go on reading pieces, as long as they are in order. -/
def supply : Nat → List Char → Intake → Supply
  | 0, text, _ => ⟨text, none⟩
  | fuel + 1, text, intake =>
      match intake.piece (intake.file.length + 1) with
      | none => ⟨text, some .undecodable⟩
      | some ([], _) => ⟨text, none⟩
      | some (piece, rest) =>
          if piece.all isAllowed then supply fuel (text ++ piece) rest
          else ⟨text, some .malformed⟩

end Intake

/-- The text of a file.  The first two pieces are one group. -/
def Supply.ofBytes (bytes : List UInt8) : Supply :=
  let intake : Intake := { file := unifyMeasured (measureFrom 0 bytes) }
  let fuel := bytes.length + 1
  match intake.piece fuel with
  | none => ⟨[], some .undecodable⟩
  | some (first, rest) =>
      match rest.piece fuel with
      | none => ⟨[], some .undecodable⟩
      | some (second, rest) =>
          if (first ++ second).all isAllowed then rest.supply fuel (first ++ second)
          else ⟨[], some .malformed⟩

end MarkupLint.Yaml
