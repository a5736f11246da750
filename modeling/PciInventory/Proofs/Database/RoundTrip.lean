import PciInventory.Proofs.Database.Naming
import PciInventory.Proofs.Database.Writing

/-!
# Reading and naming undo writing

The database of a written catalogue has the entries of the catalogue in its five tables and nothing
else, and asking it for the name of an id, as the kernel spells the id, gives the name that the
catalogue has for it. The ids that a catalogue does not have come back as they are.

This is about written catalogues only: what other files mean is said elsewhere, line by line.
-/
namespace PciInventory

namespace Catalogue
variable {D : Catalogue} {lines : List Text} {name : Text}

section Lookups
variable (D) (v d sv sd : BitVec 16) (c s : BitVec 8)

def vendorName? : Option Text := (D.vendor? v).map (·.name.text)

def deviceName? : Option Text := (D.device? v d).map (·.name.text)

def subsystemName? : Option Text := (D.subsystem? v d sv sd).map (·.name.text)

/-- The name of a class code: of its subclass in the class, or else of the class. The low byte of
the code is a programming interface and does not count. -/
def codeName? (code : BitVec 24) : Option Text :=
  let c := code.extractLsb' 16 8
  ((D.subclass? c (code.extractLsb' 8 8)).map (·.name.text)).or ((D.class? c).map (·.name.text))

end Lookups

theorem vendor_mem_entries_iff {v : BitVec 16} :
    .vendor (hex v) name ∈ D.entries ↔ D.vendorName? v = some name := by
  rw [mem_entries_iff_holds, vendorName?, Option.map_eq_some_iff]
  constructor
  · intro h
    cases h with
    | vendor key found =>
      cases hex16_inj.1 key
      exact ⟨_, found, rfl⟩
  · rintro ⟨x, found, rfl⟩
    exact .vendor rfl found

theorem device_mem_entries_iff {v d : BitVec 16} :
    .device (hex v) (hex d) name ∈ D.entries ↔ D.deviceName? v d = some name := by
  rw [mem_entries_iff_holds, deviceName?, Option.map_eq_some_iff]
  constructor
  · intro h
    cases h with
    | device ownerKey key found =>
      cases hex16_inj.1 ownerKey
      cases hex16_inj.1 key
      exact ⟨_, found, rfl⟩
  · rintro ⟨x, found, rfl⟩
    exact .device rfl rfl found

theorem subsystem_mem_entries_iff {v d sv sd : BitVec 16} :
    .subsystem (Database.pairKey (hex v) (hex d)) (Database.pairKey (hex sv) (hex sd)) name ∈
      D.entries ↔ D.subsystemName? v d sv sd = some name := by
  rw [mem_entries_iff_holds, subsystemName?, Option.map_eq_some_iff]
  constructor
  · intro h
    cases h with
    | subsystem ownerKey key found =>
      obtain ⟨rfl, rfl⟩ := pairKey_hex_inj.1 ownerKey
      obtain ⟨rfl, rfl⟩ := pairKey_hex_inj.1 key
      exact ⟨_, found, rfl⟩
  · rintro ⟨x, found, rfl⟩
    exact .subsystem rfl rfl found

theorem deviceClass_mem_entries_iff {c : BitVec 8} :
    .deviceClass (hex c) name ∈ D.entries ↔ (D.class? c).map (·.name.text) = some name := by
  rw [mem_entries_iff_holds, Option.map_eq_some_iff]
  constructor
  · intro h
    cases h with
    | deviceClass key found =>
      cases hex8_inj.1 key
      exact ⟨_, found, rfl⟩
  · rintro ⟨x, found, rfl⟩
    exact .deviceClass rfl found

theorem subclass_mem_entries_iff {c s : BitVec 8} :
    .subclass (hex c ++ hex s) name ∈ D.entries ↔
      (D.subclass? c s).map (·.name.text) = some name := by
  rw [mem_entries_iff_holds, Option.map_eq_some_iff]
  constructor
  · intro h
    cases h with
    | subclass key found =>
      obtain ⟨rfl, rfl⟩ := append_hex_inj.1 key
      exact ⟨_, found, rfl⟩
  · rintro ⟨x, found, rfl⟩
    exact .subclass rfl found

/-- An id as the kernel spells it. -/
def kernelText {w : Nat} (id : BitVec w) : Text := '0' :: 'x' :: hex id

theorem normalizeId_kernelText {w : Nat} (h : 4 ≤ w) (id : BitVec w) :
    normalizeId (kernelText id) = hex id := by
  have digits : Text.IsHexadecimal (hex id) := .of_digits fun _ => Text.mem_hexDigits
  have spelled : SpelledAs (hex id) (kernelText id) := .behindMark digits
  rw [spelled.normalizeId_eq_lower, (isId_hex h id).lower_eq]

theorem hex_code (code : BitVec 24) : hex code = hex (code.extractLsb' 16 8) ++
    hex (code.extractLsb' 8 8) ++ hex (code.extractLsb' 0 8) := by
  have byte (start : Nat) : hex (code.extractLsb' start 8) =
      Text.hexDigits 2 (code.toNat / 2 ^ start) := by
    rw [hex, BitVec.extractLsb'_toNat, Nat.shiftRight_eq_div_pow]
    exact Text.hexDigits_mod 2 _
  rw [byte, byte, byte, hex, show 24 / 4 = 2 + 2 + 2 from rfl, Text.hexDigits_add,
    Text.hexDigits_add, Nat.div_div_eq_div_mul, Nat.pow_zero, Nat.div_one,
    show 16 ^ 2 * 16 ^ 2 = 2 ^ 16 from rfl, show 16 ^ 2 = 2 ^ 8 from rfl]

end Catalogue

namespace Database
open Catalogue
variable {D : Catalogue} {lines : List Text}

theorem name?_ofLines_of_written (h : D.Written lines) (source : Option Text) (p : Place)
    (name : Text) : (ofLines lines source).name? p = some name ↔ p.entry name ∈ D.entries := by
  rw [ofLines_eq_insertAll, name?_insertAll_iff (name?_empty source p), h.mem_entries_iff]
  intro e he e' he' same
  rw [h.mem_entries_iff, mem_entries_iff_holds] at he he'
  exact he.unique he' same

theorem name?_eq_of_written (h : D.Written lines) (source : Option Text) (p : Place)
    {found : Option Text} (has : ∀ name, p.entry name ∈ D.entries ↔ found = some name) :
    (ofLines lines source).name? p = found :=
  Option.ext fun name => (name?_ofLines_of_written h source p name).trans (has name)

section Names
variable (h : D.Written lines) (source : Option Text)
include h

theorem vendorName_of_written (v : BitVec 16) :
    (ofLines lines source).vendorName (kernelText v) = (D.vendorName? v).getD (hex v) := by
  have found := name?_eq_of_written h source (.vendor (hex v)) fun _ => vendor_mem_entries_iff
  simp only [name?] at found
  rw [vendorName, normalizeId_kernelText (by decide), found]

theorem deviceName_of_written (v d : BitVec 16) :
    (ofLines lines source).deviceName (kernelText v) (kernelText d) =
      (D.deviceName? v d).getD (hex d) := by
  have found := name?_eq_of_written h source (.device (hex v) (hex d)) fun _ =>
    device_mem_entries_iff
  simp only [name?] at found
  rw [deviceName, normalizeId_kernelText (by decide), normalizeId_kernelText (by decide), found]

theorem subsystemName_of_written (v d sv sd : BitVec 16) :
    (ofLines lines source).subsystemName (kernelText v) (kernelText d) (kernelText sv)
      (kernelText sd) = (D.subsystemName? v d sv sd).getD (hex sd) := by
  have found := name?_eq_of_written h source
    (.subsystem (pairKey (hex v) (hex d)) (pairKey (hex sv) (hex sd))) fun _ =>
      subsystem_mem_entries_iff
  simp only [name?] at found
  simp only [subsystemName, normalizeId_kernelText (show 4 ≤ 16 by decide), found]

theorem className_of_written (code : BitVec 24) :
    (ofLines lines source).className (kernelText code) =
      (D.codeName? code).getD ("Unknown class (".toList ++ hex code ++ [')']) := by
  have class_found := name?_eq_of_written h source (.deviceClass (hex (code.extractLsb' 16 8)))
    fun _ => deviceClass_mem_entries_iff
  have subclass_found := name?_eq_of_written h source
    (.subclass (hex (code.extractLsb' 16 8) ++ hex (code.extractLsb' 8 8))) fun _ =>
      subclass_mem_entries_iff
  simp only [name?] at class_found subclass_found
  have six : (hex code).length = 6 := length_hex code
  have four : (hex code).take 4 = hex (code.extractLsb' 16 8) ++ hex (code.extractLsb' 8 8) := by
    rw [hex_code]
    exact List.take_left' (by simp [length_hex])
  have two : (hex code).take 2 = hex (code.extractLsb' 16 8) := by
    rw [hex_code, List.append_assoc]
    exact List.take_left' (length_hex _)
  simp only [className, normalizeId_kernelText (show 4 ≤ 24 by decide), byDigits?, six, four, two,
    class_found, subclass_found]
  rfl

end Names

/-- Reading a written catalogue, whatever the order of its sections and whatever blank lines and
comments stand in it, gives its entries and no others, and asking for names gives its names. -/
theorem ofLines_undoes_writing (h : D.Written lines) (source : Option Text) :
    let db := ofLines lines source
    (db.vendors.Tabulates (fun id name => .vendor id name ∈ D.entries) ∧
      TabulatesPairs db.devices (fun vendor id name => .device vendor id name ∈ D.entries) ∧
      TabulatesPairs db.subsystems (fun device pair name =>
        .subsystem device pair name ∈ D.entries) ∧
      db.classes.Tabulates (fun id name => .deviceClass id name ∈ D.entries) ∧
      db.subclasses.Tabulates (fun id name => .subclass id name ∈ D.entries)) ∧
    (∀ v, db.vendorName (kernelText v) = (D.vendorName? v).getD (hex v)) ∧
    (∀ v d, db.deviceName (kernelText v) (kernelText d) = (D.deviceName? v d).getD (hex d)) ∧
    (∀ v d sv sd,
      db.subsystemName (kernelText v) (kernelText d) (kernelText sv) (kernelText sd) =
        (D.subsystemName? v d sv sd).getD (hex sd)) ∧
    ∀ code, db.className (kernelText code) =
      (D.codeName? code).getD ("Unknown class (".toList ++ hex code ++ [')']) := by
  have tables (p : Place) (name : Text) := name?_ofLines_of_written h source p name
  have regular := isRegular_ofLines lines source
  refine ⟨⟨⟨regular.vendors, fun id => tables (.vendor id)⟩,
    ⟨regular.devices, fun vendor id => tables (.device vendor id)⟩,
    ⟨regular.subsystems, fun device pair => tables (.subsystem device pair)⟩,
    ⟨regular.classes, fun id => tables (.deviceClass id)⟩,
    ⟨regular.subclasses, fun id => tables (.subclass id)⟩⟩,
    vendorName_of_written h source, deviceName_of_written h source,
    subsystemName_of_written h source, className_of_written h source⟩

end Database

namespace Catalogue

/-- A name with everything in it that the format has a use for. -/
def awkwardName : Name := ⟨['C', ' ', ' ', '#', '\t', '\t', 'x'], by simp [Text.IsOneLine], by rfl⟩

/-- One vendor with one device and subsystem, and one class with a subclass. -/
def sample : Catalogue where
  vendors := [⟨0x8086, awkwardName, [⟨0x1237, awkwardName, [⟨0x1af4, 0x1100, awkwardName⟩],
    by decide⟩], by decide⟩]
  classes := [⟨0x06, awkwardName, [⟨0x04, awkwardName, [⟨0x01, awkwardName⟩]⟩], by decide⟩]
  distinctVendors := by decide
  distinctClasses := by decide

end Catalogue

/-- A comment in front of the sample changes nothing; the name of its subsystem is read back, and a
class code outside it is unknown. -/
theorem Database.ofLines_undoes_writing_sample :
    Catalogue.sample.Written (['#'] :: Catalogue.sample.lines) ∧
    (ofLines (['#'] :: Catalogue.sample.lines) none).subsystemName ['0', 'x', '8', '0', '8', '6']
      ['0', 'x', '1', '2', '3', '7'] ['0', 'x', '1', 'a', 'f', '4'] ['0', 'x', '1', '1', '0', '0'] =
      Catalogue.awkwardName.text ∧
    (ofLines (['#'] :: Catalogue.sample.lines) none).className
      ['0', 'x', '0', '2', '0', '0', '0', '0'] = "Unknown class (020000)".toList := by
  have written : Catalogue.sample.Written (['#'] :: Catalogue.sample.lines) :=
    ⟨Catalogue.sample.chapters, .refl _, .idle ['#'] (.inr rfl) (.refl _)⟩
  obtain ⟨-, -, -, subsystem, code⟩ := ofLines_undoes_writing written none
  exact ⟨written, subsystem 0x8086 0x1237 0x1af4 0x1100, code 0x020000⟩

end PciInventory
