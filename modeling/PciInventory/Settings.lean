import PciInventory.Failure.Basic
import PciInventory.LogLevel
import PciInventory.Text.Case

/-!
# Settings

Four environment variables say where the id databases, the devices and the module list are, and how
much is logged. A path variable that is unset or empty leaves the default. The log level is looked
up in upper case, and an empty one is no level.
-/
namespace PciInventory

abbrev Environment := Table Text Text

/-- Where to look and what to log. -/
structure Settings where
  databasePaths : List Text
  deviceRoot : Text
  modulePath : Text
  logLevel : LogLevel
  deriving DecidableEq

namespace Settings

def defaultDeviceRoot : Text := "/sys/bus/pci/devices".toList

def defaults : Settings where
  databasePaths := ["/usr/share/misc/pci.ids".toList, "/usr/share/hwdata/pci.ids".toList]
  deviceRoot := defaultDeviceRoot
  modulePath := "/proc/modules".toList
  logLevel := .warning

def databaseVariable : Text := "PCISCOPE_PCI_IDS".toList

def deviceVariable : Text := "PCISCOPE_SYSFS_PCI".toList

def moduleVariable : Text := "PCISCOPE_PROC_MODULES".toList

/-- The value of a variable, unless it is unset or empty. -/
def filled? (env : Environment) (name : Text) : Option Text :=
  (env.get? name).filter (!·.isEmpty)

/-- The paths in a list of them; nothing between two colons is no path. -/
def paths (value : Text) : List Text := (value.splitOn ':').filter (!·.isEmpty)

/-- The text that is looked up as a log level. -/
def levelText (env : Environment) : Text :=
  Text.upper ((env.get? logLevelVariable).getD defaults.logLevel.name)

/-- The settings that an environment makes. -/
def load (env : Environment) : Except ConfigError Settings :=
  match LogLevel.ofName? (levelText env) with
  | none => .error (.logLevel (levelText env))
  | some level => .ok
    { databasePaths := ((filled? env databaseVariable).map paths).getD defaults.databasePaths
      deviceRoot := (filled? env deviceVariable).getD defaults.deviceRoot
      modulePath := (filled? env moduleVariable).getD defaults.modulePath
      logLevel := level }

end Settings

end PciInventory
