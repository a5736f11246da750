import PciInventory.Device.Attribute
import PciInventory.Number.Literal
import PciInventory.Text.Case

/-!
# Values of link attributes

How the text of each link attribute is read as a number. A speed may have its unit behind it and a
width a lower-case `x` in front; a power state is a number or one of five words; a flag is zero or
one. A text that is refused is told as it was, blanks included.
-/
namespace PciInventory

def readQuantity (quantity : Quantity) (raw literal : Text) : Except ParseError Binary64 :=
  match Literal.read? literal with
  | none => .error ⟨.notANumber quantity, raw⟩
  | some l =>
    if l.toBinary64.isFinite then .ok l.toBinary64 else .error ⟨.notFinite quantity, raw⟩

def speedUnit : Text := " GT/s".toList

/-- The unit of a link speed with the name of the bus. -/
def busSpeedUnit : Text := " GT/s PCIe".toList

/-- A link speed in GT/s: a literal with neither, either or both units behind it. -/
def parseSpeed (raw : Text) : Except ParseError Binary64 :=
  readQuantity .linkSpeed raw
    (Text.strip (Text.dropEnding speedUnit (Text.dropEnding busSpeedUnit raw)))

def dropTimes : Text → Text
  | 'x' :: rest => rest
  | t => t

def parseWidth (raw : Text) : Except ParseError Binary64 :=
  readQuantity .linkWidth raw (Text.strip (dropTimes raw))

/-- The words for the power states, each at its number. -/
def powerWords : List Text :=
  ["d0".toList, "d1".toList, "d2".toList, "d3hot".toList, "d3cold".toList]

def powerWord? (t : Text) : Option Nat :=
  let i := powerWords.idxOf t
  if i < powerWords.length then some i else none

/-- A power state: a number from 0 to 4, or a word in either case. -/
def parsePowerState (raw : Text) : Except ParseError Binary64 :=
  let t := Text.strip raw
  match Literal.read? t with
  | some l =>
    if [0, 1, 2, 3, 4].any fun n : Int => l.toBinary64.equals (.ofInt n) then .ok l.toBinary64
    else .error ⟨.powerStateOutOfRange, raw⟩
  | none =>
    match powerWord? (Text.lower t) with
    | some n => .ok (.ofInt n)
    | none => .error ⟨.powerStateUnknown, raw⟩

def parseFlag (raw : Text) : Except ParseError Binary64 :=
  match readQuantity .flag raw (Text.strip raw) with
  | .error e => .error e
  | .ok x =>
    if [0, 1].any fun n : Int => x.equals (.ofInt n) then .ok x else .error ⟨.flagOutOfRange, raw⟩

def LinkAttribute.parse : LinkAttribute → Text → Except ParseError Binary64
  | .currentSpeed => parseSpeed
  | .currentWidth => parseWidth
  | .maxSpeed => parseSpeed
  | .maxWidth => parseWidth
  | .powerState => parsePowerState
  | .d3coldAllowed => parseFlag

end PciInventory
