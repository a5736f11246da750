import PciInventory.Database.Names
import PciInventory.Device.LinkValue
import PciInventory.Notice
import PciInventory.Observation

/-!
# Polling the devices

A poll goes through the devices in the order of their slots. A device that can be told about yields
one observation with all that it is, and one for each link attribute that has a number. A device
that cannot be told about is skipped, with a warning; it bears on no other device.
-/
namespace PciInventory

structure DeviceRecord where
  slot : Text
  identity : IdentityAttribute → Text
  vendorName : Text
  deviceName : Text
  subsystemVendorName : Text
  subsystemDeviceName : Text
  className : Text
  link : LinkAttribute → Option Binary64

/-- What a poll yields: the number of things polled, and what was observed of them. -/
structure Poll where
  count : Nat
  observations : List Observation
  deriving DecidableEq

/-- A sink after a poll, with the number of things polled. A poll that fails leaves the sink as it
is. -/
def Sink.update (s : Sink) : Except Failure Poll → Sink × Except Failure Nat
  | .ok p => (s.emitAll p.observations, .ok p.count)
  | .error e => (s, .error e)

/-- The collector of devices: the names it gives, and the directory that the devices are in. -/
structure PcieCollector where
  database : Database
  root : Text
  deriving DecidableEq

/-- What a link attribute's text comes to: it is missing, or it has a number, or it has none. -/
inductive LinkReading where
  | missing
  | value (x : Binary64)
  | misread (e : ParseError)
  deriving DecidableEq

def LinkAttribute.read (a : LinkAttribute) (t : Text) : LinkReading :=
  if t = unknownText then .missing
  else match a.parse t with
    | .ok x => .value x
    | .error e => .misread e

def LinkReading.value? : LinkReading → Option Binary64
  | .value x => some x
  | _ => none

/-- What there is to say where no number was read. -/
def LinkReading.notice? (slot : Text) (a : LinkAttribute) : LinkReading → Option Notice
  | .missing => some (.attributeMissing slot a)
  | .value _ => none
  | .misread e => some (.attributeMisread slot a e)

def infoMetric : Text := metricName "pcie_device".toList "info".toList

def LinkAttribute.metric : LinkAttribute → Text
  | .currentSpeed => metricName "pcie_slot".toList "current_speed_gts".toList
  | .currentWidth => metricName "pcie_slot".toList "current_width_lanes".toList
  | .maxSpeed => metricName "pcie_slot".toList "max_speed_gts".toList
  | .maxWidth => metricName "pcie_slot".toList "max_width_lanes".toList
  | .powerState => metricName "pcie_slot".toList "power_state".toList
  | .d3coldAllowed => metricName "pcie_slot".toList "d3cold_allowed".toList

namespace DeviceRecord

def infoLabels (r : DeviceRecord) : Labels :=
  [("slot".toList, r.slot),
    ("vendor_id".toList, r.identity .vendor),
    ("vendor_name".toList, r.vendorName),
    ("device_id".toList, r.identity .device),
    ("device_name".toList, r.deviceName),
    ("subsystem_vendor_id".toList, r.identity .subsystemVendor),
    ("subsystem_vendor_name".toList, r.subsystemVendorName),
    ("subsystem_device_id".toList, r.identity .subsystemDevice),
    ("subsystem_device_name".toList, r.subsystemDeviceName),
    ("class_id".toList, r.identity .deviceClass),
    ("class".toList, r.className),
    ("revision".toList, r.identity .revision)]

def info (r : DeviceRecord) : Observation := ⟨infoMetric, r.infoLabels, .ofInt 1⟩

/-- The observation of a link attribute, if it has a number. -/
def linkObservation? (r : DeviceRecord) (a : LinkAttribute) : Option Observation :=
  (r.link a).map fun x => ⟨a.metric, [("slot".toList, r.slot)], x⟩

def observations (r : DeviceRecord) : List Observation :=
  r.info :: LinkAttribute.all.filterMap r.linkObservation?

end DeviceRecord

namespace PcieCollector

def record (c : PcieCollector) (slot : Text) (texts : DeviceTexts) : DeviceRecord where
  slot := slot
  identity := texts.identity
  vendorName := c.database.vendorName (texts.identity .vendor)
  deviceName := c.database.deviceName (texts.identity .vendor) (texts.identity .device)
  subsystemVendorName := c.database.vendorName (texts.identity .subsystemVendor)
  subsystemDeviceName :=
    c.database.subsystemName (texts.identity .vendor) (texts.identity .device)
      (texts.identity .subsystemVendor) (texts.identity .subsystemDevice)
  className := c.database.className (texts.identity .deviceClass)
  link := fun a => (a.read (texts.link a)).value?

/-- What there is to say about a device with given attribute texts. -/
def recordNotices (slot : Text) (texts : DeviceTexts) : List Notice :=
  LinkAttribute.all.filterMap fun a => (a.read (texts.link a)).notice? slot a

def collectDevice (c : PcieCollector) (tree : FileTree) (slot : Text) :
    Logged (Except Failure DeviceRecord) :=
  match readDevice tree c.root slot with
  | .ok texts => ⟨recordNotices slot texts, .ok (c.record slot texts)⟩
  | .error e => .silent (.error e)

/-- The record of the device in a slot, unless a fault from outside keeps it from being told
about. -/
def collectUnless (c : PcieCollector) (tree : FileTree) (fault : Text → Option Failure)
    (slot : Text) : Logged (Except Failure DeviceRecord) :=
  match fault slot with
  | some e => .silent (.error e)
  | none => c.collectDevice tree slot

/-- The observations of the device in a slot, if it is not skipped, and what there is to say. -/
def pollDevice (collect : Text → Logged (Except Failure DeviceRecord)) (slot : Text) :
    Logged (Option (List Observation)) :=
  let device := collect slot
  match device.result with
  | .ok record => ⟨device.notices, some record.observations⟩
  | .error e => ⟨device.notices ++ [.deviceSkipped slot e], none⟩

/-- A poll that gets the records of the devices by `collect`. -/
def pollWith (c : PcieCollector) (collect : Text → Logged (Except Failure DeviceRecord))
    (tree : FileTree) : Logged (Except Failure Poll) :=
  match listDevices tree c.root with
  | .error e => .silent (.error e)
  | .ok slots =>
    let devices := slots.map (pollDevice collect)
    let told := devices.filterMap (·.result)
    ⟨devices.flatMap (·.notices) ++ [.devicesCollected told.length c.root],
      .ok ⟨told.length, told.flatten⟩⟩

def poll (c : PcieCollector) (tree : FileTree) : Logged (Except Failure Poll) :=
  c.pollWith (c.collectDevice tree) tree

end PcieCollector

end PciInventory
