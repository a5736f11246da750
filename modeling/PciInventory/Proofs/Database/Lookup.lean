import PciInventory.Proofs.Database.KeyForm

/-!
# Finding what was declared

Ids become keys when a database is read and again when it is asked, each time by rules of their own,
and the two must fit. They do: whatever stands in the lines of a file, each key of its tables is
found again with `0x` in front of each of its ids, and gives the name that is stored under it.

The key of a subsystem is put together from ids with a colon between them, and an id may have a
colon in it. For ids that have none the way back is certain: a name found under two such ids stands
on a line of this vendor and this device, and if no such line has the subsystem, the answer is the
id that was asked for. With a colon in an id two devices may share a key.
-/
namespace PciInventory

/-- A text that is found again behind a mark: lower-casing keeps its characters, and it does not end
with a blank. Blanks in front of it would be kept, since the mark stands before them. -/
structure IsFindable (t : Text) : Prop where
  lower : ∀ c ∈ t, Text.Case.IsLower c
  visibleEnd : ∀ c, t.getLast? = some c → Text.isBlank c = false

namespace IsFindable
variable {a b t : Text}

theorem of_forall (h : ∀ c ∈ t, Text.Case.IsLower c ∧ Text.isBlank c = false) : IsFindable t := by
  constructor
  · intro c hc
    exact (h c hc).1
  · intro c hc
    exact (h c (List.mem_of_getLast? hc)).2

theorem append (ha : IsFindable a) (hb : IsFindable b) : IsFindable (a ++ b) := by
  constructor
  · exact List.forall_mem_append.2 ⟨ha.lower, hb.lower⟩
  · intro c hc
    by_cases none : b = []
    · rw [none, List.append_nil] at hc
      exact ha.visibleEnd c hc
    · rw [List.getLast?_append_of_ne_nil _ none] at hc
      exact hb.visibleEnd c hc

theorem normalizeId_marked (h : IsFindable t) : normalizeId (marked t) = t := by
  have trimmed : Text.strip (marked t) = marked t := by
    apply Text.strip_eq_self
    · intro c hc
      cases hc
      decide
    · intro c hc
      cases t with
      | nil =>
        cases hc
        decide
      | cons first rest =>
        apply h.visibleEnd c
        simpa [marked] using hc
  rw [normalizeId, trimmed]
  exact Text.lower_eq_self h.lower

end IsFindable

theorem IsKeyPart.isFindable {t : Text} (h : IsKeyPart t) : IsFindable t := by
  constructor
  · exact h.isLower
  · intro c hc
    rw [← h.trimmed] at hc
    exact Text.getLast?_strip hc

/-- No character of the key of a subsystem is a blank, since the words that it is made of have none,
and lower-casing keeps each of them. -/
theorem IsKeyPart.subsystemKey {id : Text} (h : IsKeyPart id) :
    ∀ c ∈ Context.subsystemKey id, Text.Case.IsLower c ∧ Text.isBlank c = false := by
  intro c hc
  rcases Text.mem_of_mem_joinWith hc with colon | ⟨word, member, hc⟩
  · rw [List.mem_singleton.1 colon]
    exact ⟨⟨by decide, by decide⟩, by decide⟩
  · obtain ⟨own, visible⟩ := (Text.mem_of_mem_words member).2 c hc
    exact ⟨h.isLower c own, visible⟩

namespace Database

section Marked
variable {db : Database} {v d sv sd id name : Text}

theorem vendorName_marked (h : IsFindable v) (found : db.vendors.get? v = some name) :
    db.vendorName (marked v) = name := by
  rw [vendorName, h.normalizeId_marked, found]
  rfl

theorem deviceName_marked (hv : IsFindable v) (hd : IsFindable d)
    (found : nested? db.devices v d = some name) :
    db.deviceName (marked v) (marked d) = name := by
  rw [deviceName, hv.normalizeId_marked, hd.normalizeId_marked, found]
  rfl

theorem subsystemName_marked (hv : IsFindable v) (hd : IsFindable d) (hsv : IsFindable sv)
    (hsd : IsFindable sd)
    (found : nested? db.subsystems (pairKey v d) (pairKey sv sd) = some name) :
    db.subsystemName (marked v) (marked d) (marked sv) (marked sd) = name := by
  rw [subsystemName, hv.normalizeId_marked, hd.normalizeId_marked, hsv.normalizeId_marked,
    hsd.normalizeId_marked, found]
  rfl

theorem byDigits?_of_length (t : Table Text Text) {digits : Nat} (h : id.length = digits) :
    byDigits? t digits id = t.get? id := by
  rw [byDigits?, if_pos h.ge, List.take_of_length_le h.le]

theorem className_marked_of_subclass (h : IsFindable id) (four : id.length = 4)
    (found : db.subclasses.get? id = some name) : db.className (marked id) = name := by
  rw [className, h.normalizeId_marked, byDigits?_of_length _ four, found]
  rfl

theorem className_marked_of_class (h : IsFindable id) (two : id.length = 2)
    (found : db.classes.get? id = some name) : db.className (marked id) = name := by
  have short : byDigits? db.subclasses 4 id = none := by
    rw [byDigits?, if_neg (by omega)]
  rw [className, h.normalizeId_marked, short, byDigits?_of_length _ two, found]
  rfl

end Marked

section Keys
variable {lines : List Text} {source : Option Text} {v d id : Text}

theorem isFindable_of_vendor (h : (ofLines lines source).Has (.vendor v)) : IsFindable v :=
  IsKeyPart.isFindable ((isGrounded_ofLines lines source).supports h)

theorem isFindable_of_device (h : (ofLines lines source).Has (.device v d)) :
    IsFindable v ∧ IsFindable d := by
  obtain ⟨owner, part⟩ := (isGrounded_ofLines lines source).supports h
  exact ⟨isFindable_of_vendor owner, part.isFindable⟩

theorem isFindable_of_deviceClass (h : (ofLines lines source).Has (.deviceClass id)) :
    IsFindable id :=
  IsKeyPart.isFindable ((isGrounded_ofLines lines source).supports h)

theorem isFindable_of_subclass (h : (ofLines lines source).Has (.subclass id)) :
    IsFindable id := by
  obtain ⟨c, s, rfl, owner, part⟩ := (isGrounded_ofLines lines source).supports h
  exact (isFindable_of_deviceClass owner).append part.isFindable

/-- Wherever the key of a subsystem is parted, its parts are found again. -/
theorem isFindable_of_subsystem {key sv sd : Text}
    (h : (ofLines lines source).Has (.subsystem key (pairKey sv sd))) :
    IsFindable sv ∧ IsFindable sd := by
  obtain ⟨before, line, after, e, -, adds, place⟩ := has_ofLines_iff.1 h
  have each : ∀ c ∈ pairKey sv sd, Text.Case.IsLower c ∧ Text.isBlank c = false := by
    cases adds with
    | subsystem own above member of here =>
      obtain ⟨-, pair⟩ := Place.subsystem.inj place
      rw [← pair]
      exact here.isKeyPart.1.subsystemKey
    | _ => cases place
  obtain ⟨front, back⟩ := List.forall_mem_append.1 each
  constructor
  · exact .of_forall front
  · exact .of_forall (List.forall_mem_cons.1 back).2

end Keys

/-- Whatever the lines of a database are, each name in its tables is found under its ids with a mark
in front of each. -/
theorem names_ofLines_marked (lines : List Text) (source : Option Text) :
    let db := ofLines lines source
    (∀ v name, db.vendors.get? v = some name → db.vendorName (marked v) = name) ∧
    (∀ v d name, nested? db.devices v d = some name →
      db.deviceName (marked v) (marked d) = name) ∧
    (∀ v d sv sd name, (nested? db.devices v d).isSome →
      nested? db.subsystems (pairKey v d) (pairKey sv sd) = some name →
      db.subsystemName (marked v) (marked d) (marked sv) (marked sd) = name) ∧
    (∀ id name, id.length = 4 → db.subclasses.get? id = some name →
      db.className (marked id) = name) ∧
    ∀ id name, id.length = 2 → db.classes.get? id = some name →
      db.className (marked id) = name := by
  refine ⟨?_, ?_, ?_, ?_, ?_⟩
  · intro v name found
    have vendor := isFindable_of_vendor ⟨name, found⟩
    exact vendorName_marked vendor found
  · intro v d name found
    obtain ⟨vendor, device⟩ := isFindable_of_device ⟨name, found⟩
    exact deviceName_marked vendor device found
  · intro v d sv sd name known found
    obtain ⟨vendor, device⟩ := isFindable_of_device (Option.isSome_iff_exists.1 known)
    obtain ⟨subvendor, subdevice⟩ := isFindable_of_subsystem ⟨name, found⟩
    exact subsystemName_marked vendor device subvendor subdevice found
  · intro id name four found
    have subclass := isFindable_of_subclass ⟨name, found⟩
    exact className_marked_of_subclass subclass four found
  · intro id name two found
    have deviceClass := isFindable_of_deviceClass ⟨name, found⟩
    exact className_marked_of_class deviceClass two found

/-- Ids that are out of form: with a mark of their own, with letters whose lower case depends on the
letters around them or takes two characters, with a blank or a colon in them. -/
theorem names_ofLines_marked_sample :
    let db := ofLines ["0XΑΣ:1  Vendor".toList, "\tİ d  Device".toList,
      "\t\tSV Σ  Board".toList, "CΣΣ  Bus".toList, "\tA1  Bridge".toList] none
    let vendor := "0xας:1".toList
    let device := "i̇ d".toList
    (db.vendors.get? vendor = some "Vendor".toList ∧
      db.vendorName (marked vendor) = "Vendor".toList) ∧
    (nested? db.devices vendor device = some "Device".toList ∧
      db.deviceName (marked vendor) (marked device) = "Device".toList) ∧
    (nested? db.subsystems (pairKey vendor device) "sv:σ".toList = some "Board".toList ∧
      db.subsystemName (marked vendor) (marked device) "0xsv".toList "0xσ".toList =
        "Board".toList) ∧
    (db.subclasses.get? "σςa1".toList = some "Bridge".toList ∧
      db.className "0xσςa1".toList = "Bridge".toList) ∧
    (db.classes.get? "σς".toList = some "Bus".toList ∧
      db.className "0xσς".toList = "Bus".toList) := by
  intro db vendor device
  obtain ⟨vendors, devices, subsystems, subclasses, classes⟩ := names_ofLines_marked
    ["0XΑΣ:1  Vendor".toList, "\tİ d  Device".toList, "\t\tSV Σ  Board".toList,
      "CΣΣ  Bus".toList, "\tA1  Bridge".toList] none
  have stored : db.vendors.get? vendor = some "Vendor".toList ∧
      nested? db.devices vendor device = some "Device".toList ∧
      nested? db.subsystems (pairKey vendor device) (pairKey "sv".toList "σ".toList) =
        some "Board".toList ∧
      db.subclasses.get? "σςa1".toList = some "Bridge".toList ∧
      db.classes.get? "σς".toList = some "Bus".toList := by decide +kernel
  obtain ⟨ofVendor, ofDevice, ofBoard, ofBridge, ofBus⟩ := stored
  have known : (nested? db.devices vendor device).isSome := by rw [ofDevice]; rfl
  exact ⟨⟨ofVendor, vendors _ _ ofVendor⟩, ⟨ofDevice, devices _ _ _ ofDevice⟩,
    ⟨ofBoard, subsystems _ _ _ _ _ known ofBoard⟩,
    ⟨ofBridge, subclasses _ _ (by decide) ofBridge⟩, ⟨ofBus, classes _ _ (by decide) ofBus⟩⟩

end Database

/-- A line behind the lines `before` declares a subsystem of the device `d` of the vendor `v`: the
nearest section above it is this vendor, and the nearest device since then is this device. -/
inductive DeclaresSubsystemOf (v d : Text) (before : List Text) (line pair name : Text) : Prop where
  | declared {owner vname device dname id : Text} {between since : List Text}
      (own : Nearest StartsSection before owner between)
      (above : LineDeclares owner .vendor ⟨v, vname⟩)
      (member : Nearest DeclaresMember between device since)
      (of : LineDeclares device (.indented 1) ⟨d, dname⟩)
      (here : LineDeclares line (.indented 2) ⟨id, name⟩)
      (key : Context.subsystemKey id = pair) : DeclaresSubsystemOf v d before line pair name

/-- Some line of a file declares a subsystem of the device `d` of the vendor `v`. -/
def SubsystemDeclared (lines : List Text) (v d pair name : Text) : Prop :=
  ∃ before line after, lines = before ++ line :: after ∧
    DeclaresSubsystemOf v d before line pair name

theorem adds_subsystem_iff {before : List Text} {line key pair name : Text} :
    Adds before line (.subsystem key pair name) ↔
      ∃ v d, Database.pairKey v d = key ∧ DeclaresSubsystemOf v d before line pair name := by
  constructor
  · intro adds
    cases adds with
    | subsystem own above member of here =>
      exact ⟨_, _, rfl, .declared own above member of here rfl⟩
  · rintro ⟨v, d, rfl, declares⟩
    cases declares with
    | declared own above member of here key =>
      rw [← key]
      exact .subsystem own above member of here

namespace Database

/-- A pair of ids without a colon in them is the pair of no other ids. -/
theorem pairKey_inj_of_not_mem {a b c d : Text} (ha : ':' ∉ a) (hb : ':' ∉ b)
    (same : pairKey c d = pairKey a b) : c = a ∧ d = b := by
  rcases Text.parted_cases same.symm ha with alike | ⟨more, -, later⟩
  · exact alike
  · rw [later] at hb
    exact absurd (by simp) hb

section Declared
variable {lines : List Text} {v d pair name : Text}

theorem subsystemDeclared_iff (hv : ':' ∉ v) (hd : ':' ∉ d) :
    SubsystemDeclared lines v d pair name ↔ ∃ before line after,
      lines = before ++ line :: after ∧ Adds before line (.subsystem (pairKey v d) pair name) := by
  constructor
  · rintro ⟨before, line, after, split, declares⟩
    exact ⟨before, line, after, split, adds_subsystem_iff.2 ⟨v, d, rfl, declares⟩⟩
  · rintro ⟨before, line, after, split, adds⟩
    obtain ⟨v', d', key, declares⟩ := adds_subsystem_iff.1 adds
    obtain ⟨rfl, rfl⟩ := pairKey_inj_of_not_mem hv hd key
    exact ⟨before, line, after, split, declares⟩

/-- A name in the table is the name on some line of the vendor and the device. -/
theorem subsystemDeclared_of_nested? {source : Option Text} (hv : ':' ∉ v) (hd : ':' ∉ d)
    (found : nested? (ofLines lines source).subsystems (pairKey v d) pair = some name) :
    SubsystemDeclared (lines.map Text.dropLineEnd) v d pair name := by
  have here : (ofLines lines source).name? (.subsystem (pairKey v d) pair) = some name := found
  obtain ⟨before, line, after, e, split, adds, place, named, -⟩ := name?_ofLines_iff.1 here
  rw [DatabaseEntry.eq_entry_iff.2 ⟨place, named⟩] at adds
  exact (subsystemDeclared_iff hv hd).2 ⟨before, line, after, split, adds⟩

/-- Where the table has no name, no line of the vendor and the device declares one. -/
theorem not_subsystemDeclared_of_nested? {source : Option Text} (hv : ':' ∉ v) (hd : ':' ∉ d)
    (none_found : nested? (ofLines lines source).subsystems (pairKey v d) pair = none) :
    ¬ SubsystemDeclared (lines.map Text.dropLineEnd) v d pair name := by
  intro declared
  obtain ⟨before, line, after, split, adds⟩ := (subsystemDeclared_iff hv hd).1 declared
  have here : (ofLines lines source).Has (.subsystem (pairKey v d) pair) :=
    has_ofLines_iff.2 ⟨before, line, after, _, split, adds, rfl⟩
  obtain ⟨name', found⟩ := here
  cases none_found.symm.trans found

end Declared

/-- Asked for ids without a colon, a database gives a subsystem the name on a line of this vendor
and this device, or else, when none of their lines declares it, the id that it was asked for. -/
theorem subsystemName_ofLines (lines : List Text) (source : Option Text) {vendor device : Text}
    (hv : ':' ∉ normalizeId vendor) (hd : ':' ∉ normalizeId device) :
    let db := ofLines lines source
    let declared := SubsystemDeclared (lines.map Text.dropLineEnd) (normalizeId vendor)
      (normalizeId device)
    (∀ pair name, nested? db.subsystems (pairKey (normalizeId vendor) (normalizeId device)) pair =
      some name → declared pair name) ∧
    ∀ subvendor subdevice,
      let pair := pairKey (normalizeId subvendor) (normalizeId subdevice)
      let answer := db.subsystemName vendor device subvendor subdevice
      declared pair answer ∨
        (∀ name, ¬ declared pair name) ∧ answer = normalizeId subdevice := by
  intro db declared
  constructor
  · intro pair name found
    exact subsystemDeclared_of_nested? hv hd found
  · intro subvendor subdevice pair answer
    let key := pairKey (normalizeId vendor) (normalizeId device)
    have answered : answer = (nested? db.subsystems key pair).getD (normalizeId subdevice) := rfl
    cases found : nested? db.subsystems key pair with
    | none =>
      right
      constructor
      · intro name
        exact not_subsystemDeclared_of_nested? hv hd found
      · rw [answered, found, Option.getD_none]
    | some name =>
      left
      rw [answered, found, Option.getD_some]
      exact subsystemDeclared_of_nested? hv hd found

/-- Two vendors have a device of one id, and each device a subsystem of one pair: the name is that
of the vendor asked for. A subsystem that neither has comes back as its id. -/
theorem subsystemName_ofLines_sample :
    let lines := ["1af4  First".toList, "\t1000  Net".toList, "\t\t1af4 0001  Net card".toList,
      "1022  Second".toList, "\t1000  Bus".toList, "\t\t1af4 0001  Bus card".toList]
    let vendor := "0x1022".toList
    let device := "0x1000".toList
    (':' ∉ normalizeId vendor ∧ ':' ∉ normalizeId device) ∧
    SubsystemDeclared (lines.map Text.dropLineEnd) (normalizeId vendor) (normalizeId device)
      "1af4:0001".toList "Bus card".toList ∧
    (ofLines lines none).subsystemName vendor device "0x1AF4".toList "0x0001".toList =
      "Bus card".toList ∧
    (ofLines lines none).subsystemName vendor device "0x1AF4".toList "0x0002".toList =
      "0002".toList := by
  intro lines vendor device
  have hv : ':' ∉ normalizeId vendor := by decide +kernel
  have hd : ':' ∉ normalizeId device := by decide +kernel
  obtain ⟨sound, -⟩ := subsystemName_ofLines lines none hv hd
  have stored : nested? (ofLines lines none).subsystems
      (pairKey (normalizeId vendor) (normalizeId device)) "1af4:0001".toList =
        some "Bus card".toList ∧
    (ofLines lines none).subsystemName vendor device "0x1AF4".toList "0x0001".toList =
      "Bus card".toList ∧
    (ofLines lines none).subsystemName vendor device "0x1AF4".toList "0x0002".toList =
      "0002".toList := by decide +kernel
  obtain ⟨found, answers⟩ := stored
  exact ⟨⟨hv, hd⟩, sound _ _ found, answers⟩

/-- With a colon in an id the device `b:c` of the vendor `a` has the key of a device `c` of a vendor
that is not there. -/
example : subsystemName (ofLines ["a  Vendor".toList, "\tb:c  Device".toList,
      "\t\t1 2  Board".toList] none) "a:b".toList "c".toList "1".toList "2".toList =
    "Board".toList := by
  decide +kernel

end Database

end PciInventory
