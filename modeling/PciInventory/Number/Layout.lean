import PciInventory.Number.Digits
import PciInventory.Text.Digit

/-!
# How a number is written

A layout says which digits of a number are written and how they are laid out. Two layouts are in
use: the full one, from which a number can be read back, and a brief one of six digits for tables.
-/
namespace PciInventory

structure Layout where
  /-- The digits written for `m · 2 ^ e`. -/
  digits : Nat → Int → DecimalDigits
  /-- The first power of ten that is too large to be written without an exponent. -/
  widest : Int
  /-- Whether a whole number is written with `.0` behind it. -/
  pointZero : Bool

namespace Layout

/-- The fewest digits that read back; an exponent from `1e16` on; a point in every number. -/
def full : Layout := ⟨DecimalDigits.shortest, 16, true⟩

/-- Six digits; an exponent from `1e6` on; no point in a whole number. -/
def brief : Layout := ⟨DecimalDigits.rounded 6, 6, false⟩

/-- The smallest power of ten that is written without an exponent. -/
def narrowest : Int := -4

/-- Digits without the zeros at their end, but for the first digit. -/
def significant : Text → Text
  | [] => []
  | d :: rest => d :: Text.trimEndBy (· == '0') rest

/-- An exponent: a sign and at least two digits. -/
def exponentText (e : Int) : Text :=
  let digits := Text.ofNat e.natAbs
  'e' :: (if e < 0 then '-' else '+') :: (List.replicate (2 - digits.length) '0' ++ digits)

/-- The digits in front of a point, and those behind it, if any are to be written. -/
def pointed (pointZero : Bool) (whole fraction : Text) : Text :=
  if fraction = [] then (if pointZero then whole ++ ['.', '0'] else whole)
  else whole ++ '.' :: fraction

/-- Digits whose first stands for `10 ^ top`. -/
def place (layout : Layout) (digits : Text) (top : Int) : Text :=
  if narrowest ≤ top ∧ top < layout.widest then
    if 0 ≤ top then
      let places := top.toNat + 1
      pointed layout.pointZero
        (digits.take places ++ List.replicate (places - digits.length) '0') (digits.drop places)
    else
      pointed layout.pointZero ['0'] (List.replicate ((-top).toNat - 1) '0' ++ digits)
  else
    pointed false (digits.take 1) (digits.drop 1) ++ exponentText top

def magnitude (layout : Layout) (m : Nat) (e : Int) : Text :=
  if m = 0 then layout.place ['0'] 0
  else
    let d := layout.digits m e
    let digits := Text.ofNat d.coefficient
    layout.place (significant digits) (d.power + digits.length - 1)

def write (layout : Layout) : Binary64 → Text
  | .finite negative m e => (if negative then ['-'] else []) ++ layout.magnitude m e
  | .infinite negative => (if negative then ['-'] else []) ++ "inf".toList
  | .notANumber => "nan".toList

end Layout

namespace Binary64

/-- The text from which a number can be read back. -/
def text (x : Binary64) : Text := Layout.full.write x

/-- The text of a number to six significant digits. -/
def briefText (x : Binary64) : Text := Layout.brief.write x

end Binary64

end PciInventory
