import Mathlib.Data.List.Forall2
import Mathlib.Data.List.Permutation
import PciInventory.Device.Poll
import PciInventory.FileTree.Writing
import PciInventory.Proofs.FileTree.Listing

/-!
# What a poll of the devices reports

A poll goes once through the entries of its root, in strictly rising order, and adds to the sink one
block of observations for each entry that can be told about. A block is said of the device's files
alone: what the files hold, which names the database has for it, and which link attributes have a
number. An entry that cannot be told about leaves no trace among the observations; it is one at which
a fault breaks in from outside, or one whose directory has no path.

The notices of a poll are not part of this.
-/
namespace PciInventory

theorem Path.isPassable_join {directory path : Text} (hd : isPassable directory = true)
    (hp : isPassable path = true) : isPassable (join directory path) = true := by
  simp only [isPassable, List.contains_eq_mem, Bool.not_eq_true', decide_eq_false_iff_not] at *
  unfold join
  split
  · exact hp
  · split <;> simp [hd, hp]

theorem isPassable_devicePath {root slot fileName : Text}
    (h : Path.isPassable (Path.join root slot) = true) (hf : Path.isPassable fileName = true) :
    Path.isPassable (devicePath root slot fileName) = true :=
  Path.isPassable_join h hf

theorem readDevice_eq_ok {tree : FileTree} {root slot : Text} {texts : DeviceTexts}
    (h : readDevice tree root slot = .ok texts) :
    (∀ a : IdentityAttribute,
      readAttribute tree (devicePath root slot a.fileName) = .ok (texts.identity a)) ∧
    ∀ a : LinkAttribute,
      readAttribute tree (devicePath root slot a.fileName) = .ok (texts.link a) := by
  unfold readDevice at h
  split at h
  · rename_i passable
    cases h
    constructor
    · intro a
      rw [readAttribute, if_pos (isPassable_devicePath passable (by cases a <;> decide))]
    · intro a
      rw [readAttribute, if_pos (isPassable_devicePath passable (by cases a <;> decide))]
  · cases h

theorem listDirectory_of_listDevices {tree : FileTree} {root : Text} {slots : List Text}
    (h : listDevices tree root = .ok slots) : tree.listDirectory root = .ok slots := by
  unfold listDevices at h
  split at h
  · split at h
    · cases h
      assumption
    · cases h
  · cases h

theorem LinkAttribute.value?_read {a : LinkAttribute} {t : Text} {x : Binary64} :
    (a.read t).value? = some x ↔ t ≠ unknownText ∧ a.parse t = .ok x := by
  unfold read
  split
  · rename_i unknown
    simp [LinkReading.value?, unknown]
  · rename_i known
    cases a.parse t <;> simp [LinkReading.value?, known]

/-- The observations of the device in a slot, said of its files: first all that it is, under the
twelve labels in their order, then the link attributes that have a text with a number, in their
order. -/
def PcieCollector.IsBlock (c : PcieCollector) (tree : FileTree) (slot : Text)
    (os : List Observation) : Prop :=
  ∃ (identity : IdentityAttribute → Text) (link : LinkAttribute → Text)
    (reported : List (LinkAttribute × Binary64)),
    (∀ a, readAttribute tree (devicePath c.root slot a.fileName) = .ok (identity a)) ∧
    (∀ a, readAttribute tree (devicePath c.root slot a.fileName) = .ok (link a)) ∧
    (reported.map Prod.fst).Sublist LinkAttribute.all ∧
    (∀ a x, (a, x) ∈ reported ↔ link a ≠ unknownText ∧ a.parse (link a) = .ok x) ∧
    os = ⟨"pciscope_pcie_device_info".toList,
      [("slot".toList, slot),
        ("vendor_id".toList, identity .vendor),
        ("vendor_name".toList, c.database.vendorName (identity .vendor)),
        ("device_id".toList, identity .device),
        ("device_name".toList, c.database.deviceName (identity .vendor) (identity .device)),
        ("subsystem_vendor_id".toList, identity .subsystemVendor),
        ("subsystem_vendor_name".toList, c.database.vendorName (identity .subsystemVendor)),
        ("subsystem_device_id".toList, identity .subsystemDevice),
        ("subsystem_device_name".toList, c.database.subsystemName (identity .vendor)
          (identity .device) (identity .subsystemVendor) (identity .subsystemDevice)),
        ("class_id".toList, identity .deviceClass),
        ("class".toList, c.database.className (identity .deviceClass)),
        ("revision".toList, identity .revision)],
      .ofInt 1⟩ ::
      reported.map fun (a, x) => ⟨a.metric, [("slot".toList, slot)], x⟩

namespace DeviceRecord

/-- The link attributes that have a number, with it. -/
def reported (r : DeviceRecord) : List (LinkAttribute × Binary64) :=
  LinkAttribute.all.filterMap fun a => (r.link a).map fun x => (a, x)

theorem mem_reported {r : DeviceRecord} {a : LinkAttribute} {x : Binary64} :
    (a, x) ∈ r.reported ↔ r.link a = some x := by
  have all : a ∈ LinkAttribute.all := by cases a <;> decide
  simp [reported, all]

theorem reported_sublist (r : DeviceRecord) :
    (r.reported.map Prod.fst).Sublist LinkAttribute.all := by
  have each (as : List LinkAttribute) :
      ((as.filterMap fun a => (r.link a).map fun x => (a, x)).map Prod.fst).Sublist as := by
    induction as with
    | nil => exact .slnil
    | cons a rest ih =>
      cases h : r.link a with
      | none => simpa [h] using ih.cons a
      | some x => simpa [h] using ih
  exact each _

theorem observations_eq (r : DeviceRecord) : r.observations =
    r.info :: r.reported.map fun (a, x) => ⟨a.metric, [("slot".toList, r.slot)], x⟩ := by
  simp only [observations, reported, List.map_filterMap, Option.map_map]
  rfl

end DeviceRecord

namespace PcieCollector
variable {c : PcieCollector} {tree : FileTree} {fault : Text → Option Failure} {slot : Text}

theorem result_collectUnless : (c.collectUnless tree fault slot).result =
    match fault slot with
    | some e => .error e
    | none => (readDevice tree c.root slot).map (c.record slot) := by
  unfold collectUnless
  cases fault slot with
  | some e => rfl
  | none =>
    unfold collectDevice
    cases readDevice tree c.root slot <;> rfl

/-- A device can be told about if no fault from outside hinders it and its directory has a path. -/
theorem isOk_collectUnless : (c.collectUnless tree fault slot).result.isOk =
    ((fault slot).isNone && Path.isPassable (Path.join c.root slot)) := by
  rw [result_collectUnless]
  cases fault slot with
  | some e => rfl
  | none => cases h : Path.isPassable (Path.join c.root slot) <;> simp [readDevice, h] <;> rfl

theorem isBlock_observations {r : DeviceRecord}
    (h : (c.collectUnless tree fault slot).result = .ok r) :
    c.IsBlock tree slot r.observations := by
  rw [result_collectUnless] at h
  cases hf : fault slot with
  | some e => simp [hf] at h
  | none =>
    cases read : readDevice tree c.root slot with
    | error e => simp [hf, read, Except.map] at h
    | ok texts =>
      obtain rfl : c.record slot texts = r := by simpa [hf, read, Except.map] using h
      obtain ⟨identity, link⟩ := readDevice_eq_ok read
      refine ⟨texts.identity, texts.link, _, identity, link, DeviceRecord.reported_sublist _, ?_,
        DeviceRecord.observations_eq _⟩
      intro a x
      rw [DeviceRecord.mem_reported]
      exact LinkAttribute.value?_read

/-- The devices that are told about stand in the order of their slots, with what they report. -/
theorem forall₂_told {collect : Text → Logged (Except Failure DeviceRecord)}
    {P : Text → List Observation → Prop}
    (h : ∀ slot r, (collect slot).result = .ok r → P slot r.observations) (slots : List Text) :
    List.Forall₂ P (slots.filter fun slot => (collect slot).result.isOk)
      ((slots.map (pollDevice collect)).filterMap (·.result)) := by
  induction slots with
  | nil => exact .nil
  | cons slot rest ih =>
    cases device : (collect slot).result with
    | ok r =>
      have block : (pollDevice collect slot).result = some r.observations := by
        simp only [pollDevice, device]
      rw [List.filter_cons_of_pos (by rw [device]; rfl), List.map_cons,
        List.filterMap_cons_some block]
      exact .cons (h slot r device) ih
    | error e =>
      have skipped : (pollDevice collect slot).result = none := by simp only [pollDevice, device]
      rw [List.filter_cons_of_neg (by rw [device]; nofun), List.map_cons,
        List.filterMap_cons_none skipped]
      exact ih

/-- A poll reports every entry of its root once, whole and in order, but for those that cannot be
told about. An entry without a fault, whose directory has a path, can. If the root cannot be listed
the poll reports nothing and fails in the same way. -/
theorem update_pollWith (c : PcieCollector) (tree : FileTree) (fault : Text → Option Failure)
    (sink : Sink) :
    let collect := c.collectUnless tree fault
    let update := sink.update (c.pollWith collect tree).result
    match listDevices tree c.root with
    | .error e => update.1 = sink ∧ update.2 = .error e
    | .ok slots =>
      slots.Pairwise Text.Before ∧
      (∃ here, tree.locate c.root = .ok here ∧ tree.entry? here = some .directory ∧
        ∀ slot, slot ∈ slots ↔ ∃ entry, tree.entry? (here ++ [slot]) = some entry) ∧
      (∀ slot, (collect slot).result.isOk = true ↔
        fault slot = none ∧ Path.isPassable (Path.join c.root slot) = true) ∧
      ∃ blocks : List (List Observation),
        List.Forall₂ (c.IsBlock tree) (slots.filter fun slot => (collect slot).result.isOk) blocks ∧
        update.1.observations = sink.observations ++ blocks.flatten ∧
        update.2 = .ok blocks.length := by
  intro collect update
  cases listed : listDevices tree c.root with
  | error e =>
    have polled : (c.pollWith collect tree).result = .error e := by
      simp only [pollWith, listed, Logged.silent]
    simp only [update, polled, Sink.update, and_self]
  | ok slots =>
    obtain ⟨rising, entries⟩ := FileTree.listDirectory_eq_ok (listDirectory_of_listDevices listed)
    refine ⟨rising, entries, fun slot => ?_, _,
      forall₂_told (fun _ _ => isBlock_observations) slots, ?_, ?_⟩
    · simp only [collect, isOk_collectUnless, Bool.and_eq_true, Option.isNone_iff_eq_none]
    · simp only [update, pollWith, listed, Sink.update, Sink.emitAll]
      rfl
    · simp only [update, pollWith, listed, Sink.update]
      rfl

/-- Of two devices the first meets a fault, and the second is reported all the same. -/
theorem update_pollWith_one_fault :
    let tree := ((FileTree.empty []).put [['d'], ['0']] .directory).put
      [['d'], ['1'], "vendor".toList] (.file [0x30])
    let c : PcieCollector := ⟨.empty, ['d']⟩
    let fault : Text → Option Failure := fun slot =>
      if slot = ['0'] then some (.fault "broken".toList) else none
    let update := Sink.empty.update (c.pollWith (c.collectUnless tree fault) tree).result
    listDevices tree c.root = .ok [['0'], ['1']] ∧
      ∃ block, c.IsBlock tree ['1'] block ∧ update.1.observations = block ∧ update.2 = .ok 1 := by
  intro tree c fault update
  have listed : listDevices tree c.root = .ok [['0'], ['1']] := by cbv
  have polled := c.update_pollWith tree fault Sink.empty
  simp only [listed] at polled
  obtain ⟨-, -, told, blocks, each, added, counted⟩ := polled
  have first : (c.collectUnless tree fault ['0']).result.isOk = false := by
    rw [Bool.eq_false_iff, ne_eq, told]
    simp [fault]
  have second : (c.collectUnless tree fault ['1']).result.isOk = true :=
    (told ['1']).2 ⟨rfl, by decide⟩
  simp only [List.filter_cons, List.filter_nil, first, second, if_true, Bool.false_eq_true,
    if_false] at each
  obtain ⟨block, rest, one, none, rfl⟩ := List.forall₂_cons_left_iff.1 each
  obtain rfl := List.forall₂_nil_left_iff.1 none
  exact ⟨listed, block, one, added.trans (List.flatten_singleton ..), counted⟩

end PcieCollector

end PciInventory
