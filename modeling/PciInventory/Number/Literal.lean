import PciInventory.Number.Binary64
import PciInventory.Text.Digit

/-!
# Decimal literals

The grammar of a decimal number: an optional sign; digits with an optional point and optional
digits after it, or a point and digits; optionally `e` or `E`, an optional sign and digits. The
digits may be of any script. What a literal is worth is found exactly and rounded once.
-/
namespace PciInventory

structure Literal where
  negative : Bool
  /-- The digits in front of the point. -/
  whole : Text
  /-- The digits after the point. -/
  fraction : Text
  /-- The power of ten. -/
  power : Int

namespace Literal

def takeSign : Text → Bool × Text
  | '-' :: rest => (true, rest)
  | '+' :: rest => (false, rest)
  | t => (false, t)

/-- The digits at the front, and what follows them. -/
def takeDigits (t : Text) : Text × Text := (t.takeWhile Text.isDigit, t.dropWhile Text.isDigit)

/-- What stands after a literal's last digit: nothing, or a power of ten. -/
def readPower? : Text → Option Int
  | [] => some 0
  | c :: rest =>
    if c = 'e' ∨ c = 'E' then
      let (negative, digits) := takeSign rest
      if digits ≠ [] ∧ digits.all Text.isDigit then
        some (if negative then -(Text.digitsToNat digits : Int) else Text.digitsToNat digits)
      else none
    else none

/-- What stands after the digits in front of the point: optionally a point and further digits. -/
def takeFraction : Text → Text × Text
  | '.' :: rest => takeDigits rest
  | t => ([], t)

def read? (t : Text) : Option Literal :=
  let (negative, unsigned) := takeSign t
  let (whole, rest) := takeDigits unsigned
  let (fraction, rest) := takeFraction rest
  if whole = [] ∧ fraction = [] then none
  else (readPower? rest).map fun power => ⟨negative, whole, fraction, power⟩

def coefficient (l : Literal) : Nat := Text.digitsToNat (l.whole ++ l.fraction)

/-- The power of ten that goes with the whole number of all digits. -/
def exponent (l : Literal) : Int := l.power - l.fraction.length

/-- The binary64 number nearest to a literal. A literal beyond `10 ^ 309` is infinite and one below
`10 ^ (-324)` is zero, so that no power of ten needs to be larger than the digits warrant. -/
def toBinary64 (l : Literal) : Binary64 :=
  let n := l.coefficient
  let e := l.exponent
  if n = 0 then .zero l.negative
  else if 309 ≤ e then .infinite l.negative
  else if (l.whole ++ l.fraction).length + e ≤ -324 then .zero l.negative
  else .ofFraction l.negative ((⟨n, 1⟩ : Fraction).scale 10 e)

end Literal

end PciInventory
