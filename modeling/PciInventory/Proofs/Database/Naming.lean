import PciInventory.Database.Names
import PciInventory.Database.Reader
import PciInventory.Proofs.Text.LetterCase

/-!
# Spellings of an id

A text of hexadecimal digits may be asked for as an id with blanks around it, with `0x` or `0X` in
front of it and with its letters in either case, each of several ids in its own way. All of its
spellings have one plain form, and a database sees no more of an id than that. So it answers all of
them alike, and with the same words where it has no name.

This is so of every database, whatever its tables come from, and for ids of any length. Nothing is
said of texts with other characters in them: of those not all have two forms, and one that begins
with `0x` itself does not keep it.
-/
namespace PciInventory

open Text (AlikeButCase IsHexadecimal isBlank)

/-- An id with `0x` in front. -/
def marked (id : Text) : Text := '0' :: 'x' :: id

/-- What may stand right in front of the digits of an id. -/
def hexMarks : List Text := [[], ['0', 'x'], ['0', 'X']]

/-- An id of hexadecimal digits may be written as a text: its digits, with letters of any case,
stand in the text between blanks, perhaps with a mark in front of them. -/
inductive SpelledAs (id : Text) : Text → Prop where
  | spelled {before mark digits after : Text} (hex : IsHexadecimal id)
      (front : ∀ c ∈ before, isBlank c = true) (marked : mark ∈ hexMarks)
      (letters : AlikeButCase id digits) (back : ∀ c ∈ after, isBlank c = true) :
      SpelledAs id (before ++ ((mark ++ digits) ++ after))

theorem dropHexMark_eq_self {t : Text} (noMark : ∀ c ∈ t, c ≠ 'x' ∧ c ≠ 'X') :
    dropHexMark t = t := by
  unfold dropHexMark
  split
  · exact absurd rfl (noMark 'x' (by simp)).1
  · exact absurd rfl (noMark 'X' (by simp)).2
  · rfl

theorem dropHexMark_append {mark digits : Text} (marked : mark ∈ hexMarks)
    (noMark : ∀ c ∈ digits, c ≠ 'x' ∧ c ≠ 'X') : dropHexMark (mark ++ digits) = digits := by
  simp only [hexMarks, List.mem_cons, List.not_mem_nil, or_false] at marked
  rcases marked with rfl | rfl | rfl
  · exact dropHexMark_eq_self noMark
  · rfl
  · rfl

theorem notBlank_of_mem_hexMarks {mark : Text} (marked : mark ∈ hexMarks) :
    ∀ c ∈ mark, isBlank c = false := by
  have all : hexMarks.all (fun mark => mark.all fun c => !isBlank c) = true := by decide +kernel
  have here := List.all_eq_true.1 all mark marked
  simpa using here

namespace SpelledAs
variable {id text : Text}

theorem refl (hex : IsHexadecimal id) : SpelledAs id id := by
  have plain := @spelled id [] [] id [] hex nofun (by decide) (.refl id) nofun
  rwa [List.nil_append, List.nil_append, List.append_nil] at plain

theorem behindMark (hex : IsHexadecimal id) : SpelledAs id (marked id) := by
  have plain := @spelled id [] ['0', 'x'] id [] hex nofun (by decide) (.refl id) nofun
  rwa [List.nil_append, List.append_nil] at plain

theorem isHexadecimal (h : SpelledAs id text) : IsHexadecimal id := by
  cases h with
  | spelled hex => exact hex

/-- However an id is written, its plain form is that of its digits. -/
theorem normalizeId_eq_lower (h : SpelledAs id text) : normalizeId text = Text.lower id := by
  cases h with
  | @spelled before mark digits after hex front marked letters back =>
    have digitsHex := hex.recased letters
    have noMark : ∀ c ∈ digits, c ≠ 'x' ∧ c ≠ 'X' := by
      have other := digitsHex.all (fun c => c ≠ 'x' ∧ c ≠ 'X') (by decide)
      simpa using other
    have visible : ∀ c ∈ mark ++ digits, isBlank c = false :=
      List.forall_mem_append.2 ⟨notBlank_of_mem_hexMarks marked, digitsHex.notBlank⟩
    rw [normalizeId, Text.strip_surrounded _ front back, Text.strip_eq_self_of_forall visible,
      dropHexMark_append marked noMark, Text.lower_congr letters]

theorem normalizeId_eq (h : SpelledAs id text) : normalizeId text = normalizeId id :=
  h.normalizeId_eq_lower.trans (refl h.isHexadecimal).normalizeId_eq_lower.symm

end SpelledAs

namespace Database

/-- However ids are written, they are looked up by their digits in lower case, and every database
answers the same. -/
theorem names_spelledAs (db : Database) :
    (∀ id text, SpelledAs id text → normalizeId text = Text.lower id) ∧
    (∀ v v', SpelledAs v v' → db.vendorName v' = db.vendorName v) ∧
    (∀ v v' d d', SpelledAs v v' → SpelledAs d d' →
      db.deviceName v' d' = db.deviceName v d) ∧
    (∀ v v' d d' sv sv' sd sd', SpelledAs v v' → SpelledAs d d' → SpelledAs sv sv' →
      SpelledAs sd sd' → db.subsystemName v' d' sv' sd' = db.subsystemName v d sv sd) ∧
    ∀ code code', SpelledAs code code' → db.className code' = db.className code := by
  refine ⟨?_, ?_, ?_, ?_, ?_⟩
  · intro id text h
    exact h.normalizeId_eq_lower
  · intro v v' hv
    rw [vendorName, vendorName, hv.normalizeId_eq]
  · intro v v' d d' hv hd
    rw [deviceName, deviceName, hv.normalizeId_eq, hd.normalizeId_eq]
  · intro v v' d d' sv sv' sd sd' hv hd hsv hsd
    rw [subsystemName, subsystemName, hv.normalizeId_eq, hd.normalizeId_eq, hsv.normalizeId_eq,
      hsd.normalizeId_eq]
  · intro code code' hc
    rw [className, className, hc.normalizeId_eq]

/-- A subsystem and a class in mixed spellings, the one with a name and the other without. -/
theorem names_spelledAs_sample :
    let db := ofLines ["c0de  Vendor".toList, "\tface  Device".toList,
      "\t\t1af4 be00  Board".toList] none
    (SpelledAs "c0de".toList " 0XC0dE\n".toList ∧ SpelledAs "face".toList "0xFACE".toList ∧
      SpelledAs "1af4".toList "\t1aF4".toList ∧ SpelledAs "be00".toList "Be00 ".toList ∧
      SpelledAs "0c80".toList "0X0C80".toList) ∧
    db.subsystemName " 0XC0dE\n".toList "0xFACE".toList "\t1aF4".toList "Be00 ".toList =
      "Board".toList ∧
    db.className "0X0C80".toList = "Unknown class (0c80)".toList := by
  intro db
  have blank (c : Char) (is : isBlank c = true) : ∀ c' ∈ [c], isBlank c' = true := by simpa
  have vendor : SpelledAs "c0de".toList " 0XC0dE\n".toList :=
    @SpelledAs.spelled _ [' '] ['0', 'X'] "C0dE".toList ['\n'] (by decide) (blank ' ' (by decide))
      (by decide) (by decide) (blank '\n' (by decide))
  have device : SpelledAs "face".toList "0xFACE".toList :=
    @SpelledAs.spelled _ [] ['0', 'x'] "FACE".toList [] (by decide) nofun (by decide) (by decide)
      nofun
  have subvendor : SpelledAs "1af4".toList "\t1aF4".toList :=
    @SpelledAs.spelled _ ['\t'] [] "1aF4".toList [] (by decide) (blank '\t' (by decide))
      (by decide) (by decide) nofun
  have subdevice : SpelledAs "be00".toList "Be00 ".toList :=
    @SpelledAs.spelled _ [] [] "Be00".toList [' '] (by decide) nofun (by decide) (by decide)
      (blank ' ' (by decide))
  have code : SpelledAs "0c80".toList "0X0C80".toList :=
    @SpelledAs.spelled _ [] ['0', 'X'] "0C80".toList [] (by decide) nofun (by decide) (by decide)
      nofun
  obtain ⟨-, -, -, subsystem, deviceClass⟩ := names_spelledAs db
  refine ⟨⟨vendor, device, subvendor, subdevice, code⟩, ?_, ?_⟩
  · rw [subsystem _ _ _ _ _ _ _ _ vendor device subvendor subdevice]
    decide +kernel
  · rw [deviceClass _ _ code]
    decide +kernel

end Database

end PciInventory
