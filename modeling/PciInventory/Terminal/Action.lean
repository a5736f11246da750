import PciInventory.Terminal.Parameter
import PciInventory.Text.Blank
import PciInventory.Text.WordCharacter

/-!
# Actions

A tag may name what is to be done when its text is clicked. What is done is written as a name,
perhaps with parameters in round brackets behind it on the same line, or as parameters alone.
-/
namespace PciInventory.Action

/-- Whether a text is round brackets on one line, around anything. -/
def isBracketed (t : Text) : Bool :=
  decide (2 ≤ t.length) && t.head? == some '(' && t.getLast? == some ')' && !t.contains '\n'

/-- Whether a text that says what is to be done can be read. -/
def isWritten (t : Text) : Bool :=
  let t := Text.strip t
  let arguments := t.dropWhile fun c => Text.isWordCharacter c || c == '.'
  arguments.isEmpty || Parameter.areWritten (if isBracketed arguments then arguments else t)

example : ["", "app.quit", "f(1)", "('a', 2)", "größe(None)"].map (isWritten ·.toList) =
    [true, true, true, true, true] := by decide +kernel
example : ["f(", "f(a)", "f g", "f(1) g(2)"].map (isWritten ·.toList) =
    [false, false, false, false] := by decide +kernel

end PciInventory.Action
