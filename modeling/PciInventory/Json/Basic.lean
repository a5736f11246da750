import PciInventory.Text.Digit

/-!
# JSON values

The values of the JSON format. A number is kept as the token that writes it, and an object as its
members in their order, so a value says exactly what is printed and what was read.
-/
namespace PciInventory

inductive Json where
  | null
  | bool (truth : Bool)
  | number (token : Text)
  | text (content : Text)
  | array (items : List Json)
  | object (members : List (Text × Json))

namespace Json

def ofString (s : String) : Json := .text s.toList

def ofInt (n : Int) : Json := .number (Text.ofInt n)

def ofText? : Option Text → Json
  | some t => .text t
  | none => .null

/-- The member of an object with a given name; of several the last. -/
def member? (name : Text) : Json → Option Json
  | .object members => (members.reverse.find? (·.1 = name)).map (·.2)
  | _ => none

end Json

end PciInventory
