import PciInventory.Database.Basic
import PciInventory.Text.Blank
import PciInventory.Text.Case

/-!
# Names of ids

An id may be written in either case, with blanks around it and with `0x` in front. It is looked up
in its plain form, and an id without a name is given back in that form.
-/
namespace PciInventory

/-- An id without `0x` in front. -/
def dropHexMark : Text → Text
  | '0' :: 'x' :: rest => rest
  | '0' :: 'X' :: rest => rest
  | t => t

/-- The plain form of an id: no blanks around it, no `0x`, lower case. -/
def normalizeId (raw : Text) : Text := Text.lower (dropHexMark (Text.strip raw))

namespace Database

def vendorName (db : Database) (vendor : Text) : Text :=
  let v := normalizeId vendor
  (db.vendors.get? v).getD v

/-- The name of a vendor's device, or the id of the device. -/
def deviceName (db : Database) (vendor device : Text) : Text :=
  let d := normalizeId device
  (nested? db.devices (normalizeId vendor) d).getD d

/-- The name of a device's subsystem, or the id of the subsystem device. -/
def subsystemName (db : Database) (vendor device subvendor subdevice : Text) : Text :=
  let sd := normalizeId subdevice
  (nested? db.subsystems (pairKey (normalizeId vendor) (normalizeId device))
    (pairKey (normalizeId subvendor) sd)).getD sd

def unknownClass (id : Text) : Text := "Unknown class (".toList ++ id ++ [')']

/-- The name under the first digits of an id, if the id has that many. -/
def byDigits? (t : Table Text Text) (digits : Nat) (id : Text) : Option Text :=
  if digits ≤ id.length then t.get? (id.take digits) else none

def className (db : Database) (code : Text) : Text :=
  let id := normalizeId code
  ((byDigits? db.subclasses 4 id).or (byDigits? db.classes 2 id)).getD (unknownClass id)

end Database

end PciInventory
