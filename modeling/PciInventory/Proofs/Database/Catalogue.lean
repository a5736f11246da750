import Mathlib.Data.List.Nodup
import PciInventory.Proofs.Database.Entries
import PciInventory.Proofs.Text.Hexadecimal
import PciInventory.Proofs.Text.Trimming

/-!
# Catalogues

What a database is written from: vendors with their devices and the subsystems of these, and classes
with their subclasses and programming interfaces. Ids are numbers of a fixed width and no two
siblings have the same. A name is any text on one line with no blanks around it, so it may have
tabs, double spaces, a capital C or a number sign in it, in front too.

A catalogue is written section by section, and around its lines stand any blank lines and comments.
Programming interfaces are written but are no entries.
-/
namespace PciInventory

namespace Catalogue

/-- The digits of an id, four bits each. -/
def hex {w : Nat} (id : BitVec w) : Text := Text.hexDigits (w / 4) id.toNat

/-- A name on one line, without blanks around it. -/
structure Name where
  text : Text
  oneLine : Text.IsOneLine text
  trimmed : Text.strip text = text

structure Subsystem where
  vendor : BitVec 16
  device : BitVec 16
  name : Name

def Subsystem.pair (s : Subsystem) : BitVec 16 × BitVec 16 := (s.vendor, s.device)

structure Device where
  id : BitVec 16
  name : Name
  subsystems : List Subsystem
  distinct : (subsystems.map Subsystem.pair).Nodup

structure Vendor where
  id : BitVec 16
  name : Name
  devices : List Device
  distinct : (devices.map Device.id).Nodup

structure Interface where
  id : BitVec 8
  name : Name

structure Subclass where
  id : BitVec 8
  name : Name
  interfaces : List Interface

structure DeviceClass where
  id : BitVec 8
  name : Name
  subclasses : List Subclass
  distinct : (subclasses.map Subclass.id).Nodup

end Catalogue

/-- Vendors and classes, each kind without two of one id. -/
structure Catalogue where
  vendors : List Catalogue.Vendor
  classes : List Catalogue.DeviceClass
  distinctVendors : (vendors.map Catalogue.Vendor.id).Nodup
  distinctClasses : (classes.map Catalogue.DeviceClass.id).Nodup

namespace Catalogue

/-- The text of a declaration: its id, a gap of two spaces and its name. -/
def declaration (id : Text) (name : Name) : Text := id ++ ' ' :: ' ' :: name.text

def Subsystem.ids (s : Subsystem) : Text := hex s.vendor ++ ' ' :: hex s.device

def Subsystem.line (s : Subsystem) : Text := '\t' :: '\t' :: declaration s.ids s.name

def Device.lines (d : Device) : List Text :=
  ('\t' :: declaration (hex d.id) d.name) :: d.subsystems.map Subsystem.line

def Vendor.lines (v : Vendor) : List Text :=
  declaration (hex v.id) v.name :: v.devices.flatMap Device.lines

def Interface.line (i : Interface) : Text := '\t' :: '\t' :: declaration (hex i.id) i.name

def Subclass.lines (s : Subclass) : List Text :=
  ('\t' :: declaration (hex s.id) s.name) :: s.interfaces.map Interface.line

def DeviceClass.lines (c : DeviceClass) : List Text :=
  ('C' :: ' ' :: declaration (hex c.id) c.name) :: c.subclasses.flatMap Subclass.lines

/-- The entry of a subsystem, under the pair of its device and the pair of its own ids. -/
def Subsystem.entry (v d : BitVec 16) (s : Subsystem) : DatabaseEntry :=
  .subsystem (Database.pairKey (hex v) (hex d)) (Database.pairKey (hex s.vendor) (hex s.device))
    s.name.text

def Device.entries (v : BitVec 16) (d : Device) : List DatabaseEntry :=
  .device (hex v) (hex d.id) d.name.text :: d.subsystems.map (Subsystem.entry v d.id)

def Vendor.entries (v : Vendor) : List DatabaseEntry :=
  .vendor (hex v.id) v.name.text :: v.devices.flatMap (Device.entries v.id)

/-- The entry of a subclass, under the digits of its class and its own. -/
def Subclass.entry (c : BitVec 8) (s : Subclass) : DatabaseEntry :=
  .subclass (hex c ++ hex s.id) s.name.text

def DeviceClass.entries (c : DeviceClass) : List DatabaseEntry :=
  .deviceClass (hex c.id) c.name.text :: c.subclasses.map (Subclass.entry c.id)

/-- A section of a database. -/
inductive Chapter where
  | vendor (v : Vendor)
  | deviceClass (c : DeviceClass)

def Chapter.lines : Chapter → List Text
  | .vendor v => v.lines
  | .deviceClass c => c.lines

def Chapter.entries : Chapter → List DatabaseEntry
  | .vendor v => v.entries
  | .deviceClass c => c.entries

variable (D : Catalogue)

/-- The sections of a catalogue, vendors first. -/
def chapters : List Chapter := D.vendors.map .vendor ++ D.classes.map .deviceClass

/-- The lines of a catalogue, with nothing between them. -/
def lines : List Text := D.chapters.flatMap Chapter.lines

def entries : List DatabaseEntry := D.chapters.flatMap Chapter.entries

end Catalogue

/-- The lines of a file that has some lines to say, each with any line ends behind it, and anywhere
between them lines that are blank or comments. -/
inductive Interspersed : (said lines : List Text) → Prop where
  | nil : Interspersed [] []
  | kept {said lines : List Text} (line ending : Text) (h : ∀ c ∈ ending, c = '\r' ∨ c = '\n')
      (rest : Interspersed said lines) : Interspersed (line :: said) ((line ++ ending) :: lines)
  | idle {said lines : List Text} (line : Text)
      (h : Text.strip line = [] ∨ line.head? = some '#') (rest : Interspersed said lines) :
      Interspersed said (line :: lines)

/-- Lines are a writing of a catalogue: its sections in some order, with blank lines and comments
between any two lines. -/
def Catalogue.Written (D : Catalogue) (lines : List Text) : Prop :=
  ∃ chapters : List Chapter, chapters.Perm D.chapters ∧
    Interspersed (chapters.flatMap Chapter.lines) lines

namespace Catalogue

section Finding
variable {α β : Type} [DecidableEq β] {key : α → β} {items : List α}

/-- Among items with distinct keys, the one found by its key is the one that has it. -/
theorem find?_key_eq_some_iff (distinct : (items.map key).Nodup) {k : β} {a : α} :
    items.find? (fun a => key a = k) = some a ↔ a ∈ items ∧ key a = k := by
  constructor
  · intro h
    exact ⟨List.mem_of_find?_eq_some h, by simpa using List.find?_some h⟩
  · rintro ⟨ha, rfl⟩
    cases found : items.find? (fun b => key b = key a) with
    | none => exact absurd (List.find?_eq_none.1 found a ha) (by simp)
    | some b =>
      have same : key b = key a := by simpa using List.find?_some found
      rw [List.inj_on_of_nodup_map distinct (List.mem_of_find?_eq_some found) ha same]

end Finding

variable (D : Catalogue)

def vendor? (v : BitVec 16) : Option Vendor := D.vendors.find? fun x => x.id = v

def device? (v d : BitVec 16) : Option Device :=
  (D.vendor? v).bind fun x => x.devices.find? fun y => y.id = d

def subsystem? (v d sv sd : BitVec 16) : Option Subsystem :=
  (D.device? v d).bind fun x => x.subsystems.find? fun y => y.pair = (sv, sd)

def class? (c : BitVec 8) : Option DeviceClass := D.classes.find? fun x => x.id = c

def subclass? (c s : BitVec 8) : Option Subclass :=
  (D.class? c).bind fun x => x.subclasses.find? fun y => y.id = s

variable {D : Catalogue}

theorem vendor?_eq_some_iff {v : BitVec 16} {x : Vendor} :
    D.vendor? v = some x ↔ x ∈ D.vendors ∧ x.id = v :=
  find?_key_eq_some_iff D.distinctVendors

theorem device?_eq_some_iff {v d : BitVec 16} {x : Device} :
    D.device? v d = some x ↔ ∃ owner ∈ D.vendors, owner.id = v ∧ x ∈ owner.devices ∧ x.id = d := by
  simp only [device?, Option.bind_eq_some_iff, vendor?_eq_some_iff,
    find?_key_eq_some_iff (Vendor.distinct _), and_assoc]

theorem subsystem?_eq_some_iff {v d sv sd : BitVec 16} {x : Subsystem} :
    D.subsystem? v d sv sd = some x ↔ ∃ owner ∈ D.vendors, owner.id = v ∧
      ∃ device ∈ owner.devices, device.id = d ∧ x ∈ device.subsystems ∧ x.pair = (sv, sd) := by
  simp only [subsystem?, Option.bind_eq_some_iff, device?_eq_some_iff,
    find?_key_eq_some_iff (Device.distinct _)]
  constructor
  · rintro ⟨device, ⟨owner, ho, hv, hd, he⟩, hx⟩
    exact ⟨owner, ho, hv, device, hd, he, hx⟩
  · rintro ⟨owner, ho, hv, device, hd, he, hx⟩
    exact ⟨device, ⟨owner, ho, hv, hd, he⟩, hx⟩

theorem class?_eq_some_iff {c : BitVec 8} {x : DeviceClass} :
    D.class? c = some x ↔ x ∈ D.classes ∧ x.id = c :=
  find?_key_eq_some_iff D.distinctClasses

theorem subclass?_eq_some_iff {c s : BitVec 8} {x : Subclass} :
    D.subclass? c s = some x ↔
      ∃ owner ∈ D.classes, owner.id = c ∧ x ∈ owner.subclasses ∧ x.id = s := by
  simp only [subclass?, Option.bind_eq_some_iff, class?_eq_some_iff,
    find?_key_eq_some_iff (DeviceClass.distinct _), and_assoc]

theorem hex_inj {w : Nat} (h : 4 ∣ w) {x y : BitVec w} (same : hex x = hex y) : x = y := by
  have whole : 16 ^ (w / 4) = 2 ^ w := by
    rw [show 16 = 2 ^ 4 from rfl, ← Nat.pow_mul, Nat.mul_div_cancel' h]
  have numbers := Text.hexDigits_inj same
  rw [whole, Nat.mod_eq_of_lt x.isLt, Nat.mod_eq_of_lt y.isLt] at numbers
  exact BitVec.eq_of_toNat_eq numbers

theorem hex16_inj {x y : BitVec 16} : hex x = hex y ↔ x = y :=
  ⟨hex_inj ⟨4, rfl⟩, fun h => by rw [h]⟩

theorem hex8_inj {x y : BitVec 8} : hex x = hex y ↔ x = y :=
  ⟨hex_inj ⟨2, rfl⟩, fun h => by rw [h]⟩

theorem length_hex {w : Nat} (x : BitVec w) : (hex x).length = w / 4 := Text.length_hexDigits ..

theorem pairKey_hex_inj {a b a' b' : BitVec 16} :
    Database.pairKey (hex a) (hex b) = Database.pairKey (hex a') (hex b') ↔ a = a' ∧ b = b' := by
  constructor
  · intro h
    obtain ⟨first, second⟩ := List.append_inj h ((length_hex a).trans (length_hex a').symm)
    exact ⟨hex16_inj.1 first, hex16_inj.1 (List.cons.inj second).2⟩
  · rintro ⟨rfl, rfl⟩
    rfl

theorem append_hex_inj {c s c' s' : BitVec 8} :
    hex c ++ hex s = hex c' ++ hex s' ↔ c = c' ∧ s = s' := by
  constructor
  · intro h
    obtain ⟨first, second⟩ := List.append_inj h ((length_hex c).trans (length_hex c').symm)
    exact ⟨hex8_inj.1 first, hex8_inj.1 second⟩
  · rintro ⟨rfl, rfl⟩
    rfl

/-- What a catalogue says of an entry: its keys are the digits of ids under which it has an item of
that name. -/
inductive Holds (D : Catalogue) : DatabaseEntry → Prop where
  | vendor {v : BitVec 16} {x : Vendor} {id : Text} (key : id = hex v)
      (found : D.vendor? v = some x) : Holds D (.vendor id x.name.text)
  | device {v d : BitVec 16} {x : Device} {owner id : Text} (ownerKey : owner = hex v)
      (key : id = hex d) (found : D.device? v d = some x) :
      Holds D (.device owner id x.name.text)
  | subsystem {v d sv sd : BitVec 16} {x : Subsystem} {owner id : Text}
      (ownerKey : owner = Database.pairKey (hex v) (hex d))
      (key : id = Database.pairKey (hex sv) (hex sd)) (found : D.subsystem? v d sv sd = some x) :
      Holds D (.subsystem owner id x.name.text)
  | deviceClass {c : BitVec 8} {x : DeviceClass} {id : Text} (key : id = hex c)
      (found : D.class? c = some x) : Holds D (.deviceClass id x.name.text)
  | subclass {c s : BitVec 8} {x : Subclass} {id : Text} (key : id = hex c ++ hex s)
      (found : D.subclass? c s = some x) : Holds D (.subclass id x.name.text)

theorem Vendor.holds_of_mem_entries {v : Vendor} (hv : v ∈ D.vendors) {e : DatabaseEntry}
    (he : e ∈ v.entries) : D.Holds e := by
  rcases List.mem_cons.1 he with rfl | he
  · exact .vendor rfl (vendor?_eq_some_iff.2 ⟨hv, rfl⟩)
  · obtain ⟨d, hd, he⟩ := List.mem_flatMap.1 he
    rcases List.mem_cons.1 he with rfl | he
    · exact .device rfl rfl (device?_eq_some_iff.2 ⟨v, hv, rfl, hd, rfl⟩)
    · obtain ⟨s, hs, rfl⟩ := List.mem_map.1 he
      exact .subsystem rfl rfl (subsystem?_eq_some_iff.2 ⟨v, hv, rfl, d, hd, rfl, hs, rfl⟩)

theorem DeviceClass.holds_of_mem_entries {c : DeviceClass} (hc : c ∈ D.classes) {e : DatabaseEntry}
    (he : e ∈ c.entries) : D.Holds e := by
  rcases List.mem_cons.1 he with rfl | he
  · exact .deviceClass rfl (class?_eq_some_iff.2 ⟨hc, rfl⟩)
  · obtain ⟨s, hs, rfl⟩ := List.mem_map.1 he
    exact .subclass rfl (subclass?_eq_some_iff.2 ⟨c, hc, rfl, hs, rfl⟩)

theorem mem_entries_iff {e : DatabaseEntry} : e ∈ D.entries ↔
    (∃ v ∈ D.vendors, e ∈ v.entries) ∨ ∃ c ∈ D.classes, e ∈ c.entries := by
  simp [entries, chapters, Chapter.entries]

/-- The entries of a catalogue are those under which its items are found. -/
theorem mem_entries_iff_holds {e : DatabaseEntry} : e ∈ D.entries ↔ D.Holds e := by
  rw [mem_entries_iff]
  constructor
  · rintro (⟨v, hv, he⟩ | ⟨c, hc, he⟩)
    · exact v.holds_of_mem_entries hv he
    · exact c.holds_of_mem_entries hc he
  · intro h
    cases h with
    | vendor key found =>
      obtain ⟨hv, rfl⟩ := vendor?_eq_some_iff.1 found
      exact .inl ⟨_, hv, by simp [Vendor.entries, key]⟩
    | device ownerKey key found =>
      obtain ⟨v, hv, rfl, hd, rfl⟩ := device?_eq_some_iff.1 found
      refine .inl ⟨v, hv, List.mem_cons_of_mem _ (List.mem_flatMap.2 ⟨_, hd, ?_⟩)⟩
      simp [Device.entries, ownerKey, key]
    | subsystem ownerKey key found =>
      obtain ⟨v, hv, rfl, d, hd, rfl, hs, pair⟩ := subsystem?_eq_some_iff.1 found
      cases pair
      refine .inl ⟨v, hv, List.mem_cons_of_mem _ (List.mem_flatMap.2 ⟨d, hd, ?_⟩)⟩
      exact List.mem_cons_of_mem _ (List.mem_map.2 ⟨_, hs, by rw [ownerKey, key]; rfl⟩)
    | deviceClass key found =>
      obtain ⟨hc, rfl⟩ := class?_eq_some_iff.1 found
      exact .inr ⟨_, hc, by simp [DeviceClass.entries, key]⟩
    | subclass key found =>
      obtain ⟨c, hc, rfl, hs, rfl⟩ := subclass?_eq_some_iff.1 found
      exact .inr ⟨c, hc, List.mem_cons_of_mem _ (List.mem_map.2 ⟨_, hs, by rw [key]; rfl⟩)⟩

theorem Holds.unique {e e' : DatabaseEntry} (h : D.Holds e) (h' : D.Holds e')
    (same : e.place = e'.place) : e = e' := by
  cases h with
  | vendor key found =>
    cases h' with
    | vendor key' found' =>
      cases same
      cases hex16_inj.1 (key.symm.trans key')
      cases found.symm.trans found'
      rfl
    | _ => cases same
  | device ownerKey key found =>
    cases h' with
    | device ownerKey' key' found' =>
      cases same
      cases hex16_inj.1 (ownerKey.symm.trans ownerKey')
      cases hex16_inj.1 (key.symm.trans key')
      cases found.symm.trans found'
      rfl
    | _ => cases same
  | subsystem ownerKey key found =>
    cases h' with
    | subsystem ownerKey' key' found' =>
      cases same
      obtain ⟨rfl, rfl⟩ := pairKey_hex_inj.1 (ownerKey.symm.trans ownerKey')
      obtain ⟨rfl, rfl⟩ := pairKey_hex_inj.1 (key.symm.trans key')
      cases found.symm.trans found'
      rfl
    | _ => cases same
  | deviceClass key found =>
    cases h' with
    | deviceClass key' found' =>
      cases same
      cases hex8_inj.1 (key.symm.trans key')
      cases found.symm.trans found'
      rfl
    | _ => cases same
  | subclass key found =>
    cases h' with
    | subclass key' found' =>
      cases same
      obtain ⟨rfl, rfl⟩ := append_hex_inj.1 (key.symm.trans key')
      cases found.symm.trans found'
      rfl
    | _ => cases same

end Catalogue

end PciInventory
