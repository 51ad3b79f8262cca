import MarkupLint.Value.Basic

/-!
The order in which the members of a set stand.  Numbers are seated in a table with room
between them, each by its remainder; one that finds its seat taken tries the seats behind it,
and then a seat that its higher digits decide.  Where there are other members than numbers and
empty texts, all stay in the order in which they were given.
-/
namespace MarkupLint.SetOrder

/-- The size of the table for so many members, a power of two. -/
def tableSize (count : Nat) : Nat :=
  if count < 5 then 8 else Nat.pow 2 ((2 * count).log2 + 1)

/-- Numbers are reduced by this before they are seated. -/
def modulus : Int := 2305843009213693951

/-- Reduced numbers are seated as numbers of so many values, those below zero at the end. -/
def range : Int := 18446744073709551616

/-- What seats a member.  Sixty-one doublings leave a remainder as it is, and so a number's
units, `2 ^ -1074` each, have the number's remainder after 24 doublings. -/
def weight? (s : Scalar) : Option Int :=
  match s.key? with
  | some (.units n) => some (n * 16777216)
  | some (.infinity negative) => some (if negative then -314159 else 314159)
  | some (.str "") | some (.bytes []) => some 0
  | _ => none

/-- The number that decides about a seat; minus one counts as minus two. -/
def reduced (n : Int) : Nat :=
  let r := n.tmod modulus
  ((if r = -1 then -2 else r).emod range).toNat

/-- The seats to try from one on, if so many are behind it. -/
def seatsFrom (size seat : Nat) : List Nat :=
  if seat + 9 < size then List.range' seat 10 else [seat]

/-- The first free seat for a number; `fuel` bounds the tries. -/
def seat (taken : List Nat) (size : Nat) : Nat → Nat → Nat → Nat
  | 0, _, start => start
  | fuel + 1, digits, start =>
      match (seatsFrom size start).find? fun s => !taken.contains s with
      | some free => free
      | none =>
          let digits := digits / 32
          seat taken size fuel digits ((start * 5 + 1 + digits) % size)

/-- Seat members one after another. -/
def seatAll (size : Nat) (taken : List Nat) : List (Nat × Scalar) → List (Nat × Scalar)
  | [] => []
  | (number, member) :: rest =>
      let own := seat taken size (size + 16) number (number % size)
      (own, member) :: seatAll size (own :: taken) rest

def arrange (members : List Scalar) : List Scalar :=
  match members.mapM weight? with
  | none => members
  | some weights =>
      let seated := seatAll (tableSize members.length) [] ((weights.map reduced).zip members)
      (seated.mergeSort fun a b => decide (a.1 ≤ b.1)).map (·.2)

end MarkupLint.SetOrder
