import PciInventory.Database.Names
import PciInventory.Proofs.Database.Meaning

/-!
# Nameless lines

Where a database has no name it answers with the id that it was asked for, or says that the class
is unknown; neither is empty. A line may take the place of that with nothing at all: the reader
sees to it that an id stands in front of a gap, but not that a name stands behind it. So an answer
is empty exactly if the last line that says something of the place asked for is nameless, and a
database without nameless lines has no empty answer.

Nothing is said here of ids that are empty in their plain form. Where there is no name, they are the
answer themselves.
-/
namespace PciInventory

/-- A line that declares an id, with nothing but blanks behind the gap. -/
def IsNameless (line : Text) : Prop := ∃ rank d, LineDeclares line rank d ∧ d.name = []

theorem Adds.exists_declares {before : List Text} {line : Text} {e : DatabaseEntry}
    (h : Adds before line e) : ∃ rank d, LineDeclares line rank d ∧ d.name = e.name := by
  cases h with
  | vendor here => exact ⟨_, _, here, rfl⟩
  | deviceClass here => exact ⟨_, _, here, rfl⟩
  | device own above here => exact ⟨_, _, here, rfl⟩
  | subclass own above here => exact ⟨_, _, here, rfl⟩
  | subsystem own above member of here => exact ⟨_, _, here, rfl⟩

theorem LastAdded.exists_isNameless {lines : List Text} {p : Database.Place}
    (h : LastAdded lines p []) : ∃ line ∈ lines, IsNameless line := by
  obtain ⟨before, line, after, e, rfl, adds, -, named, -⟩ := h
  obtain ⟨rank, d, here, name⟩ := adds.exists_declares
  exact ⟨line, by simp, rank, d, here, name.trans named⟩

namespace Database
variable {db : Database} {t : Table Text Text} {digits : Nat} {id name : Text}

/-- An answer with a fallback that is not empty is empty only if an empty name was found. -/
theorem getD_eq_nil_iff {found : Option Text} {fallback : Text} (filled : fallback ≠ []) :
    found.getD fallback = [] ↔ found = some [] := by
  cases found <;> simp [filled]

theorem byDigits?_eq_some_iff : byDigits? t digits id = some name ↔
    digits ≤ id.length ∧ t.get? (id.take digits) = some name := by
  simp [byDigits?]

theorem byDigits?_eq_none_iff : byDigits? t digits id = none ↔
    ¬ (digits ≤ id.length ∧ ∃ name, t.get? (id.take digits) = some name) := by
  rw [← Option.not_isSome_iff_eq_none, Option.isSome_iff_exists]
  simp only [byDigits?_eq_some_iff, exists_and_left]

theorem className_eq_nil_iff (db : Database) (code : Text) :
    db.className code = [] ↔
      let id := normalizeId code
      (4 ≤ id.length ∧ db.name? (.subclass (id.take 4)) = some []) ∨
        (¬ (4 ≤ id.length ∧ ∃ name, db.name? (.subclass (id.take 4)) = some name) ∧
          2 ≤ id.length ∧ db.name? (.deviceClass (id.take 2)) = some []) := by
  have filled : unknownClass (normalizeId code) ≠ [] :=
    List.append_ne_nil_of_right_ne_nil _ (List.cons_ne_nil _ _)
  rw [className, getD_eq_nil_iff filled, Option.or_eq_some_iff, byDigits?_eq_some_iff,
    byDigits?_eq_none_iff, byDigits?_eq_some_iff]
  rfl

/-- An answer of a database is empty exactly if the last line that says something of the place
asked for says nothing as its name: for a class code the place of its subclass or, if no line speaks
of that, the place of its class. There is such a line only if some line is nameless. -/
theorem names_ofLines_eq_nil_iff (lines : List Text) (source : Option Text) :
    let db := ofLines lines source
    let said := LastAdded (lines.map Text.dropLineEnd)
    (∀ v, normalizeId v ≠ [] → (db.vendorName v = [] ↔ said (.vendor (normalizeId v)) [])) ∧
    (∀ v d, normalizeId d ≠ [] →
      (db.deviceName v d = [] ↔ said (.device (normalizeId v) (normalizeId d)) [])) ∧
    (∀ v d sv sd, normalizeId sd ≠ [] →
      (db.subsystemName v d sv sd = [] ↔
        said (.subsystem (pairKey (normalizeId v) (normalizeId d))
          (pairKey (normalizeId sv) (normalizeId sd))) [])) ∧
    (∀ code, db.className code = [] ↔
      let id := normalizeId code
      (4 ≤ id.length ∧ said (.subclass (id.take 4)) []) ∨
        (¬ (4 ≤ id.length ∧ ∃ name, said (.subclass (id.take 4)) name) ∧
          2 ≤ id.length ∧ said (.deviceClass (id.take 2)) [])) ∧
    ∀ p, said p [] → ∃ line ∈ lines.map Text.dropLineEnd, IsNameless line := by
  intro db said
  have named {p : Place} {name : Text} : db.name? p = some name ↔ said p name := name?_ofLines_iff
  refine ⟨?_, ?_, ?_, ?_, ?_⟩
  · intro v filled
    rw [← named]
    exact getD_eq_nil_iff filled
  · intro v d filled
    rw [← named]
    exact getD_eq_nil_iff filled
  · intro v d sv sd filled
    rw [← named]
    exact getD_eq_nil_iff filled
  · intro code
    simp only [className_eq_nil_iff, named]
  · intro p empty
    exact empty.exists_isNameless

/-- Of two vendors with a nameless line the one that is declared again has a name. The class of a
nameless subclass is not asked for. -/
theorem names_ofLines_eq_nil_iff_sample :
    let lines := ["8086  ".toList, "10de  \t\r\n".toList, "10de  NVIDIA".toList,
      "C 06  Bridge".toList, "\t04  ".toList]
    let db := ofLines lines none
    let said := LastAdded (lines.map Text.dropLineEnd)
    (normalizeId "0x8086".toList ≠ [] ∧ normalizeId "0x10de".toList ≠ []) ∧
    (db.vendorName "0x8086".toList = [] ∧ said (.vendor "8086".toList) []) ∧
    ¬ said (.vendor "10de".toList) [] ∧
    (said (.subclass "0604".toList) [] ∧ db.className "0x060400".toList = []) ∧
    ∃ line ∈ lines.map Text.dropLineEnd, IsNameless line := by
  intro lines db said
  obtain ⟨vendors, -, -, classes, nameless⟩ := names_ofLines_eq_nil_iff lines none
  have filled : normalizeId "0x8086".toList ≠ [] ∧ normalizeId "0x10de".toList ≠ [] := by
    decide +kernel
  have empty : db.vendorName "0x8086".toList = [] := by decide +kernel
  have first : said (.vendor "8086".toList) [] := (vendors _ filled.1).1 empty
  have named : db.vendorName "0x10de".toList ≠ [] := by decide +kernel
  have stored : db.name? (.subclass "0604".toList) = some [] := by decide +kernel
  have bridge : said (.subclass "0604".toList) [] := name?_ofLines_iff.1 stored
  refine ⟨filled, ⟨empty, first⟩, ?_, ⟨bridge, ?_⟩, nameless _ first⟩
  · intro later
    exact named ((vendors _ filled.2).2 later)
  · exact (classes _).2 (.inl ⟨by decide, bridge⟩)

/-- A line may have an id and no name, and then the name is empty that is given for the id. -/
theorem names_ofLines_nameless :
    let db := ofLines ["1af4  Red Hat, Inc.".toList, "8086  ".toList, "\t1237  ".toList,
      "\t\t1af4 1100  ".toList, "C 06  ".toList, "\t04  ".toList] none
    ¬ ((∀ v, normalizeId v ≠ [] → db.vendorName v ≠ []) ∨
      (∀ v d, normalizeId v ≠ [] → normalizeId d ≠ [] → db.deviceName v d ≠ []) ∨
      (∀ v d sv sd, normalizeId v ≠ [] → normalizeId d ≠ [] → normalizeId sv ≠ [] →
        normalizeId sd ≠ [] → db.subsystemName v d sv sd ≠ []) ∨
      ∀ code, normalizeId code ≠ [] → db.className code ≠ []) := by
  intro db
  have filled : normalizeId "8086".toList ≠ [] ∧ normalizeId "1237".toList ≠ [] ∧
      normalizeId "1af4".toList ≠ [] ∧ normalizeId "1100".toList ≠ [] ∧
      normalizeId "060400".toList ≠ [] := by decide +kernel
  have answers : db.vendorName "8086".toList = [] ∧
      db.deviceName "8086".toList "1237".toList = [] ∧
      db.subsystemName "8086".toList "1237".toList "1af4".toList "1100".toList = [] ∧
      db.className "060400".toList = [] := by decide +kernel
  obtain ⟨hv, hd, hsv, hsd, hc⟩ := filled
  obtain ⟨vendor, device, subsystem, deviceClass⟩ := answers
  rintro (h | h | h | h)
  · exact h _ hv vendor
  · exact h _ _ hv hd device
  · exact h _ _ _ _ hv hd hsv hsd subsystem
  · exact h _ hc deviceClass

end Database

end PciInventory
