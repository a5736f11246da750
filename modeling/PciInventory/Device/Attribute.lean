import PciInventory.Failure.Basic
import PciInventory.FileTree.Path
import PciInventory.Text.Blank
import PciInventory.Text.Lines

/-!
# Device attributes

A device is a directory that holds a file for each of its attributes. Six of them tell what the
device is and six how it is linked. An attribute that cannot be read is unknown; nothing about one
attribute bears on how another is read.
-/
namespace PciInventory

/-- The attributes that tell what a device is. -/
inductive IdentityAttribute where
  | vendor
  | device
  | subsystemVendor
  | subsystemDevice
  | deviceClass
  | revision
  deriving DecidableEq

/-- The attributes that tell how a device is linked and powered. -/
inductive LinkAttribute where
  | currentSpeed
  | currentWidth
  | maxSpeed
  | maxWidth
  | powerState
  | d3coldAllowed
  deriving DecidableEq

def IdentityAttribute.all : List IdentityAttribute :=
  [.vendor, .device, .subsystemVendor, .subsystemDevice, .deviceClass, .revision]

/-- Every link attribute, in the order in which they are read and reported. -/
def LinkAttribute.all : List LinkAttribute :=
  [.currentSpeed, .currentWidth, .maxSpeed, .maxWidth, .powerState, .d3coldAllowed]

def IdentityAttribute.fileName : IdentityAttribute → Text
  | .vendor => "vendor".toList
  | .device => "device".toList
  | .subsystemVendor => "subsystem_vendor".toList
  | .subsystemDevice => "subsystem_device".toList
  | .deviceClass => "class".toList
  | .revision => "revision".toList

def LinkAttribute.fileName : LinkAttribute → Text
  | .currentSpeed => "current_link_speed".toList
  | .currentWidth => "current_link_width".toList
  | .maxSpeed => "max_link_speed".toList
  | .maxWidth => "max_link_width".toList
  | .powerState => "power_state".toList
  | .d3coldAllowed => "d3cold_allowed".toList

/-- The text of an attribute that cannot be read. -/
def unknownText : Text := "unknown".toList

/-- The text in the bytes of an attribute's file, without the blanks around it. -/
def attributeOfBytes (bytes : List UInt8) : Text :=
  match Text.Utf8.decode? bytes with
  | some t => Text.strip (Text.unifyLineEnds t)
  | none => unknownText

def attributeText (tree : FileTree) (path : Text) : Text :=
  match tree.contentAt path with
  | .ok bytes => attributeOfBytes bytes
  | .error _ => unknownText

/-- The text of the attribute at a path, if it is a path. -/
def readAttribute (tree : FileTree) (path : Text) : Except Failure Text :=
  if Path.isPassable path then .ok (attributeText tree path) else .error .nulInPath

structure DeviceTexts where
  identity : IdentityAttribute → Text
  link : LinkAttribute → Text

def devicePath (root slot fileName : Text) : Text := Path.join (Path.join root slot) fileName

/-- The texts of the attributes of a device, as far as its directory has a path. -/
def readDevice (tree : FileTree) (root slot : Text) : Except Failure DeviceTexts :=
  if Path.isPassable (Path.join root slot) then
    .ok ⟨fun a => attributeText tree (devicePath root slot a.fileName),
      fun a => attributeText tree (devicePath root slot a.fileName)⟩
  else .error .nulInPath

/-- The slots of the devices under a root, in rising order. -/
def listDevices (tree : FileTree) (root : Text) : Except Failure (List Text) :=
  if Path.isPassable root then
    match tree.listDirectory root with
    | .ok slots => .ok slots
    | .error refusal => .error (.enumeration ⟨.devices, refusal, root⟩)
  else .error .nulInPath

end PciInventory
