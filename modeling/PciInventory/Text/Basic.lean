/-!
# Text

A text is the list of its characters. Every rule about text in this library is a function on that
list, so it can be followed by structural recursion. This file trims and joins texts; it knows
nothing of blanks, letters or digits. Taking texts apart at a mark is the work of `List.splitOn`.
-/
namespace PciInventory

abbrev Text := List Char

namespace Text

/-- A text without the characters at its end that `p` marks. -/
def trimEndBy (p : Char → Bool) (t : Text) : Text := (t.reverse.dropWhile p).reverse

def trimBy (p : Char → Bool) (t : Text) : Text := trimEndBy p (t.dropWhile p)

/-- A text without one given ending, if it has it. -/
def dropEnding (ending t : Text) : Text :=
  if ending.isSuffixOf t then t.take (t.length - ending.length) else t

/-- Whether a text comes before another, by the code points of their characters. -/
def comesBefore (a b : Text) : Bool := List.lex a b fun c d => decide (c.toNat < d.toNat)

def joinWith (separator : Text) (ts : List Text) : Text := List.intercalate separator ts

end Text

end PciInventory
