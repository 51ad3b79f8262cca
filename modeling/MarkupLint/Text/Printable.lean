import MarkupLint.Text.Ranges
import MarkupLint.Text.PrintableTable

/-!
Characters that can be shown as they are.
-/
namespace MarkupLint.Text

def isPrintable (c : Char) : Bool :=
  if c.toNat < 127 then decide (32 ≤ c.toNat) else inside printableBounds c.toNat

end MarkupLint.Text
