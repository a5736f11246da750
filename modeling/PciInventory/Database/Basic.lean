import PciInventory.Table
import PciInventory.Text.Basic

/-!
# The id database

The names that a database gives to vendors, to their devices, to the subsystems of a device, and to
classes and subclasses. A subsystem is found by the pair of its device and the pair of its own ids,
a subclass by the digits of its class followed by its own.
-/
namespace PciInventory

/-- Names by id. -/
structure Database where
  vendors : Table Text Text
  /-- By vendor, then by device. -/
  devices : Table Text (Table Text Text)
  /-- By vendor and device, then by subsystem vendor and subsystem device. -/
  subsystems : Table Text (Table Text Text)
  classes : Table Text Text
  /-- By class and subclass in one. -/
  subclasses : Table Text Text
  /-- The path that the names were read from. -/
  source : Option Text
  deriving DecidableEq

/-- A name that one line adds to a database. -/
inductive DatabaseEntry where
  | vendor (id name : Text)
  | device (vendor id name : Text)
  /-- The device is the pair of its ids, and so is the subsystem. -/
  | subsystem (device pair name : Text)
  | deviceClass (id name : Text)
  | subclass (id name : Text)
  deriving DecidableEq

namespace Database

def empty : Database := ⟨.empty, .empty, .empty, .empty, .empty, none⟩

/-- A database is taken for empty if it has neither vendors nor classes. -/
def isEmpty (db : Database) : Bool := db.vendors.isEmpty && db.classes.isEmpty

/-- A table of tables in which a pair of keys has a given name. -/
def insertNested (t : Table Text (Table Text Text)) (outer inner name : Text) :
    Table Text (Table Text Text) :=
  t.insert outer (((t.get? outer).getD .empty).insert inner name)

/-- A database with one more name, in place of the one that its id had. -/
def insert (db : Database) : DatabaseEntry → Database
  | .vendor id name => { db with vendors := db.vendors.insert id name }
  | .device vendor id name => { db with devices := insertNested db.devices vendor id name }
  | .subsystem device pair name =>
    { db with subsystems := insertNested db.subsystems device pair name }
  | .deviceClass id name => { db with classes := db.classes.insert id name }
  | .subclass id name => { db with subclasses := db.subclasses.insert id name }

/-- The name under a pair of keys. -/
def nested? (t : Table Text (Table Text Text)) (outer inner : Text) : Option Text :=
  (t.get? outer).bind (·.get? inner)

def pairKey (first second : Text) : Text := first ++ ':' :: second

theorem nested?_insertNested (t : Table Text (Table Text Text)) (o o' i i' name : Text) :
    nested? (insertNested t o i name) o' i' =
      if o = o' ∧ i = i' then some name else nested? t o' i' := by
  simp only [nested?, insertNested, Table.get?_insert]
  by_cases ho : o = o'
  · subst ho
    cases h : t.get? o with
    | none => by_cases hi : i = i' <;> simp [Table.get?_insert, hi]
    | some inner => by_cases hi : i = i' <;> simp [Table.get?_insert, hi]
  · simp [ho]

end Database

end PciInventory
