import AutocadMcp.Lib.Decimal
import Mathlib.Data.Int.Log

/-!
# Floating-point values

A `double` as the number it stands for. Every rational number is allowed where the
format has only some, and the two zeros are one value, which no comparison of the
modelled code tells apart.
-/

namespace AutocadMcp

inductive Double where
  | finite (value : ℚ)
  | infinite (negative : Bool)
  | nan
  deriving DecidableEq

namespace Double

instance : OfNat Double n := ⟨.finite n⟩

/-- Finite and no farther from zero than the bound. -/
def within (bound : ℚ) : Double → Bool
  | .finite x => -bound ≤ x && x ≤ bound
  | _ => false

/-- Greater than zero. -/
def positive : Double → Bool
  | .finite x => 0 < x
  | .infinite negative => !negative
  | .nan => false

/-- The distance of neighbouring doubles at a number. -/
def spacing (q : ℚ) : ℚ := 2 ^ max (Int.log 2 |q| - 52) (-1074)

/-- Rounding to the nearest double, ties to even. -/
def nearest (q : ℚ) : Double :=
  let rounded := Decimal.roundTo (spacing q) q
  if |rounded| < 2 ^ 1024 then .finite rounded else .infinite (q < 0)

end Double

end AutocadMcp
