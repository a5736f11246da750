import PciInventory.Number.Binary64

/-!
# Decimal digits of a number

Two ways to choose decimal digits for a positive binary64 number: as few as are needed to read the
same number back, and of those the nearest; or a fixed count of significant digits, rounded. All
comparisons are exact.
-/
namespace PciInventory

/-- The decimal number `coefficient · 10 ^ power`. -/
structure DecimalDigits where
  coefficient : Nat
  power : Int
  deriving DecidableEq

namespace DecimalDigits

/-- How many digits a whole number has. -/
def count (n : Nat) : Nat := (Nat.toDigits 10 n).length

/-- The power of ten at or below a positive fraction. -/
def decade (f : Fraction) : Int :=
  let rough : Int := (count f.num : Int) - (count f.den : Int)
  if f.below ((⟨1, 1⟩ : Fraction).scale 10 rough) then rough - 1 else rough

def ofSignificand (m : Nat) (e : Int) : Fraction := (⟨m, 1⟩ : Fraction).scale 2 e

/-- The lower end of what rounds to `m · 2 ^ e`: half a step down, a quarter where the step below
is half as long. -/
def lowerEnd (m : Nat) (e : Int) : Fraction :=
  if m = Nat.pow 2 52 ∧ Binary64.lowestExponent < e then ofSignificand (4 * m - 1) (e - 2)
  else ofSignificand (2 * m - 1) (e - 1)

/-- The upper end of what rounds to `m · 2 ^ e`: half a step up. -/
def upperEnd (m : Nat) (e : Int) : Fraction := ofSignificand (2 * m + 1) (e - 1)

/-- Whether a fraction rounds to `m · 2 ^ e`; the ends do where the significand is even. -/
def roundsTo (f : Fraction) (m : Nat) (e : Int) : Bool :=
  if m % 2 = 0 then !f.below (lowerEnd m e) && !(upperEnd m e).below f
  else (lowerEnd m e).below f && f.below (upperEnd m e)

def toFraction (d : DecimalDigits) : Fraction := (⟨d.coefficient, 1⟩ : Fraction).scale 10 d.power

/-- The digits at one power of ten that read back as `m · 2 ^ e`, the nearest if there are two. -/
def atPower? (m : Nat) (e : Int) (power : Int) : Option DecimalDigits :=
  let scaled := (ofSignificand m e).scale 10 (-power)
  let low : DecimalDigits := ⟨scaled.num / scaled.den, power⟩
  let high : DecimalDigits := ⟨scaled.num / scaled.den + 1, power⟩
  let near : DecimalDigits := ⟨scaled.round, power⟩
  match roundsTo low.toFraction m e, roundsTo high.toFraction m e with
  | true, true => some near
  | true, false => some low
  | false, true => some high
  | false, false => none

def rounded (places : Nat) (m : Nat) (e : Int) : DecimalDigits :=
  let f := ofSignificand m e
  let power := decade f - (places : Int) + 1
  ⟨(f.scale 10 (-power)).round, power⟩

/-- The fewest digits that read back as `m · 2 ^ e`; seventeen are always enough. -/
def shortest (m : Nat) (e : Int) : DecimalDigits :=
  let top := decade (ofSignificand m e)
  ((List.range 17).findSome? fun k : Nat => atPower? m e (top - (k : Int))).getD (rounded 17 m e)

end DecimalDigits

end PciInventory
