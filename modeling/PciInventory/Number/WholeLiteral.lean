import PciInventory.Number.Binary64
import PciInventory.Text.Digit

/-!
# Whole number literals

A whole number is written as an optional sign and digits of any script; a single underscore may
stand between two digits. A literal of more than 4300 digits is refused, leading zeros included.
-/
namespace PciInventory.WholeLiteral

/-- The most digits a literal may have: the default limit of the runtime, which a user may set to
another one. -/
def digitLimit : Nat := 4300

/-- The groups of digits between underscores. -/
def groups (t : Text) : List Text := t.splitOn '_'

/-- Whether some groups make a numeral: each of them is made of digits, and of at least one. -/
def isNumeral (gs : List Text) : Bool := gs.all fun g => !g.isEmpty && g.all Text.isDigit

def readUnsigned? (t : Text) : Option Nat :=
  let gs := groups t
  if isNumeral gs ∧ gs.flatten.length ≤ digitLimit then some (Text.digitsToNat gs.flatten) else none

def read? : Text → Option Int
  | '-' :: rest => (readUnsigned? rest).map fun n => -(n : Int)
  | '+' :: rest => (readUnsigned? rest).map fun n => (n : Int)
  | t => (readUnsigned? t).map fun n => (n : Int)

example : read? "-1_000".toList = some (-1000) := by decide +kernel
example : ["1__0", "_1", "1_", "", "-", "+-1"].map (read? ·.toList) =
    [none, none, none, none, none, none] := by decide +kernel

end PciInventory.WholeLiteral
