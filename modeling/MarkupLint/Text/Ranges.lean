/-!
Sets of code points, given by the boundaries at which membership changes, and
case shifts given by evenly spaced runs.
-/
namespace MarkupLint.Text

/-- Membership by boundaries: every boundary at or below `n` flips the answer. -/
def inside : List Nat → Nat → Bool
  | [], _ => false
  | bound :: rest, n => if n < bound then false else !inside rest n

/-- The code points `first, first + step, …` up to `last`. -/
structure Stride where
  first : Nat
  last : Nat
  step : Nat

def Stride.has (s : Stride) (n : Nat) : Bool :=
  decide (s.first ≤ n) && decide (n ≤ s.last) && (n - s.first) % s.step == 0

/-- A stride whose members move together, so that `first` becomes `target`. -/
structure Shift where
  first : Nat
  last : Nat
  step : Nat
  target : Nat

def Shift.image? (s : Shift) (n : Nat) : Option Nat :=
  if (Stride.mk s.first s.last s.step).has n then some (s.target + (n - s.first)) else none

end MarkupLint.Text
