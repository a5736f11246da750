import PciInventory.Text.Case.Table

/-!
# Lower and upper case

Full case mapping: a letter may become several characters, and a capital sigma becomes the final
form at the end of a word. Lower-casing never needs to be done twice.
-/
namespace PciInventory.Text

namespace Case

/-- The other case of a code point, as far as one of the runs has it. -/
def shiftBy (runs : List Run) (n : Nat) : Nat :=
  match runs.find? (·.holds n) with
  | some run => ((n : Int) + run.shift).toNat
  | none => n

/-- The lower case of a character that is no capital sigma. -/
def lowerOf (c : Char) : Text :=
  if c = '\u0130' then ['i', '\u0307'] else [Char.ofNat (shiftBy lowerRuns c.toNat)]

def upperOf (c : Char) : Text :=
  match upperExpansions.lookup c.toNat with
  | some points => points.map Char.ofNat
  | none => [Char.ofNat (shiftBy upperRuns c.toNat)]

/-- Whether the first character that is not skipped has a case. -/
def nextIsCased (t : Text) : Bool :=
  match t.dropWhile fun c => ignorableSpans.contains c.toNat with
  | [] => false
  | c :: _ => casedSpans.contains c.toNat

/-- The sigma after `before`, which is held backwards, and in front of `after`. -/
def sigma (before after : Text) : Char :=
  if nextIsCased before && !nextIsCased after then 'ς' else 'σ'

/-- Lower-cases a text whose earlier characters are `before`, held backwards. -/
def lowerFrom (before : Text) : Text → Text
  | [] => []
  | c :: rest =>
    (if c = 'Σ' then [sigma before rest] else lowerOf c) ++ lowerFrom (c :: before) rest

end Case

def lower (t : Text) : Text := Case.lowerFrom [] t

def upper (t : Text) : Text := t.flatMap Case.upperOf

end PciInventory.Text
