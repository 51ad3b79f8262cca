/-!
Base 64: three bytes stand as four characters of an alphabet, a last group that is not full
being filled up with equals signs.

Reading passes over every character that is not in the alphabet.  It ends at the equals signs
that fill up a group, and a text without them has to end with a full group.
-/
namespace MarkupLint.Text.Base64

def alphabet : List Char :=
  "ABCDEFGHIJKLMNOPQRSTUVWXYZabcdefghijklmnopqrstuvwxyz0123456789+/".toList

/-- The six bits of a character. -/
def sextet? (c : Char) : Option Nat :=
  alphabet.idxOf? c

def letter (sextet : Nat) : Char :=
  alphabet.getD sextet '='

/-! ### Reading -/

/-- A group that is being read: how many of its characters were taken, the bits that belong
to the next byte, and the equals signs since the last character. -/
structure Group where
  taken : Nat := 0
  bits : Nat := 0
  signs : Nat := 0

/-- Take a character's bits; the answer is the byte that is complete with them. -/
def Group.take (g : Group) (sextet : Nat) : Option UInt8 × Group :=
  match g.taken with
  | 0 => (none, { taken := 1, bits := sextet })
  | 1 => (some (.ofNat (g.bits * 4 + sextet / 16)), { taken := 2, bits := sextet % 16 })
  | 2 => (some (.ofNat (g.bits * 16 + sextet / 4)), { taken := 3, bits := sextet % 4 })
  | _ => (some (.ofNat (g.bits * 64 + sextet)), {})

/-- The bytes of a text that goes on from a group; none if the last group is not full. -/
def decodeFrom (g : Group) : List Char → Option (List UInt8)
  | [] => if g.taken = 0 then some [] else none
  | c :: rest =>
      if c = '=' then
        if g.taken < 2 then decodeFrom g rest
        else if 4 ≤ g.taken + g.signs + 1 then some []
        else decodeFrom { g with signs := g.signs + 1 } rest
      else
        match sextet? c with
        | none => decodeFrom g rest
        | some sextet =>
            let (byte, g) := g.take sextet
            (decodeFrom g rest).map (byte.toList ++ ·)

def decode? (text : List Char) : Option (List UInt8) :=
  decodeFrom {} text

/-! ### Writing -/

/-- The four characters of a group of three bytes. -/
def group (a b c : Nat) : List Char :=
  [a / 4, a % 4 * 16 + b / 16, b % 16 * 4 + c / 64, c % 64].map letter

def encode : List UInt8 → List Char
  | [] => []
  | [a] => (group a.toNat 0 0).take 2 ++ ['=', '=']
  | [a, b] => (group a.toNat b.toNat 0).take 3 ++ ['=']
  | a :: b :: c :: rest => group a.toNat b.toNat c.toNat ++ encode rest

/-- Bytes that fill a line. -/
def lineLength : Nat := 57

/-- Lines of 76 characters; `fuel` bounds their number. -/
def linesWithin : Nat → List UInt8 → List (List Char)
  | 0, _ => []
  | fuel + 1, bytes =>
      if bytes.isEmpty then []
      else encode (bytes.take lineLength) :: linesWithin fuel (bytes.drop lineLength)

def lines (bytes : List UInt8) : List (List Char) :=
  linesWithin bytes.length bytes

end MarkupLint.Text.Base64
