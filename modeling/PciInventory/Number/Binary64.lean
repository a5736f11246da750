/-!
# Binary64 numbers

A finite binary64 number is kept as its sign, a significand below `2 ^ 53` and a power of two, so
that its value is exact and can be reasoned about in whole numbers. The representation is
canonical: of the ways to write a value the one with the smallest exponent that is still allowed.
Rounding a quotient of whole numbers is the only way in which values arise here.
-/
namespace PciInventory

inductive Binary64 where
  /-- `± significand · 2 ^ exponent` -/
  | finite (negative : Bool) (significand : Nat) (exponent : Int)
  | infinite (negative : Bool)
  | notANumber
  deriving DecidableEq

namespace Binary64

/-- The exponent of the numbers nearest to zero. -/
def lowestExponent : Int := -1074

/-- The exponent of the numbers furthest from zero. -/
def highestExponent : Int := 971

/-- The form in which every number is kept. -/
def Canonical : Binary64 → Prop
  | .finite _ m e =>
    m < Nat.pow 2 53 ∧ lowestExponent ≤ e ∧ e ≤ highestExponent ∧
      (m < Nat.pow 2 52 → e = lowestExponent)
  | _ => True

def isFinite : Binary64 → Bool
  | .finite .. => true
  | _ => false

def zero (negative : Bool) : Binary64 := .finite negative 0 lowestExponent

/-- A significand with its exponent, or infinity where the exponent is too high. -/
def pack (negative : Bool) (m : Nat) (e : Int) : Binary64 :=
  if e ≤ highestExponent then .finite negative m e else .infinite negative

end Binary64

/-- A quotient rounded to the nearest whole number, a half to the even neighbour. -/
def roundQuotient (num den : Nat) : Nat :=
  let q := num / den
  let r := num % den
  if 2 * r < den then q
  else if den < 2 * r then q + 1
  else if q % 2 = 0 then q else q + 1

/-- A fraction of whole numbers. -/
structure Fraction where
  num : Nat
  den : Nat

namespace Fraction

def scale (f : Fraction) (base : Nat) (power : Int) : Fraction :=
  if 0 ≤ power then ⟨f.num * Nat.pow base power.toNat, f.den⟩
  else ⟨f.num, f.den * Nat.pow base (-power).toNat⟩

def below (f g : Fraction) : Bool := decide (f.num * g.den < g.num * f.den)

/-- The nearest whole number, a half to the even neighbour. -/
def round (f : Fraction) : Nat := roundQuotient f.num f.den

end Fraction

namespace Binary64

/-- The exponent at which a positive fraction has a significand of 53 bits. -/
def naturalExponent (f : Fraction) : Int :=
  let rough : Int := (f.num.log2 : Int) - (f.den.log2 : Int) - 52
  if (f.scale 2 (-rough)).below ⟨Nat.pow 2 52, 1⟩ then rough - 1 else rough

/-- The binary64 number nearest to a fraction, a tie to the even significand; what lies beyond the
largest finite number by half a step or more is infinite. -/
def ofFraction (negative : Bool) (f : Fraction) : Binary64 :=
  if f.num = 0 then zero negative
  else
    let e := max lowestExponent (naturalExponent f)
    let m := (f.scale 2 (-e)).round
    if m = Nat.pow 2 53 then pack negative (Nat.pow 2 52) (e + 1) else pack negative m e

def ofInt (n : Int) : Binary64 := ofFraction (n < 0) ⟨n.natAbs, 1⟩

/-- Whether two finite numbers are equal as numbers; the two zeros are. -/
def equals : Binary64 → Binary64 → Bool
  | .finite n m e, .finite n' m' e' =>
    (m == 0 && m' == 0) || (n == n' && m == m' && e == e')
  | _, _ => false

example : ofInt 1 = .finite false (2 ^ 52) (-52) := by decide +kernel
example : ofInt (2 ^ 53 + 1) = .finite false (2 ^ 52) 1 := by decide +kernel
example : ofInt (2 ^ 1024 - 2 ^ 970 - 1) = .finite false (2 ^ 53 - 1) 971 := by decide +kernel
example : ofInt (-(2 ^ 1024 - 2 ^ 970)) = .infinite true := by decide +kernel

end Binary64

end PciInventory
