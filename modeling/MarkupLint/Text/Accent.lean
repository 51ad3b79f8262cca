import MarkupLint.Text.Ranges
import MarkupLint.Text.AccentTable
import Std.Data.HashMap

/-!
Texts without their diacritics: composed characters give way to their base
characters and combining marks are left out.
-/
namespace MarkupLint.Text

def pairs : List Char → List (Char × List Char)
  | c :: base :: rest => (c, [base]) :: pairs rest
  | _ => []

/-- Read entries of a character, its base text and a closing bar. -/
def barred : Option (Char × List Char) → List Char → List (Char × List Char)
  | some (c, base), '|' :: rest => (c, base.reverse) :: barred none rest
  | some (c, base), d :: rest => barred (some (c, d :: base)) rest
  | none, c :: rest => barred (some (c, [])) rest
  | _, [] => []

def baseEntries : List (Char × List Char) :=
  singleBases.flatMap (fun line => pairs line.toList) ++
    multipleBases.flatMap (fun line => barred none line.toList)

/-- Base characters by the code of what they belong to. -/
def baseTable : Std.HashMap Nat (List Char) :=
  Std.HashMap.ofList (baseEntries.map fun entry => (entry.1.toNat, entry.2))

/-- A precomposed Hangul syllable stands for its two or three letters. -/
def hangulLetters (n : Nat) : List Char :=
  let index := n - 0xAC00
  let tail := index % 28
  [Char.ofNat (0x1100 + index / 588), Char.ofNat (0x1161 + index % 588 / 28)] ++
    if tail = 0 then [] else [Char.ofNat (0x11A7 + tail)]

def baseLetters (c : Char) : List Char :=
  if c.toNat < 128 then [c]
  else if 0xAC00 ≤ c.toNat ∧ c.toNat < 0xD7A4 then hangulLetters c.toNat
  else if inside combiningBounds c.toNat then []
  else (baseTable.get? c.toNat).getD [c]

def withoutDiacritics (text : List Char) : List Char :=
  text.flatMap baseLetters

end MarkupLint.Text
