import PciInventory.Database.Loader
import PciInventory.KernelModule.Poll
import PciInventory.Settings

/-!
# Collectors

A collector polls devices or kernel modules. It is built by its name from the settings; the devices
need an id database, which is loaded unless one is at hand.
-/
namespace PciInventory

/-- A collector of either kind. -/
inductive Collector where
  | pcie (c : PcieCollector)
  | kernelModules (c : ModuleCollector)
  deriving DecidableEq

namespace Collector

def kind : Collector → CollectorKind
  | .pcie _ => .pcie
  | .kernelModules _ => .kernelModules

def ofKind (tree : FileTree) (settings : Settings) (database : Option Database) :
    CollectorKind → Logged (Except Failure Collector)
  | .kernelModules => .silent (.ok (.kernelModules ⟨settings.modulePath⟩))
  | .pcie =>
    (database.elim (Database.load tree settings.databasePaths) fun db => .silent (.ok db)).andThen
      fun db => .silent (.ok (.pcie ⟨db, settings.deviceRoot⟩))

/-- Builds the collector with a name. -/
def build (tree : FileTree) (settings : Settings) (database : Option Database) (name : Text) :
    Logged (Except Failure Collector) :=
  match CollectorKind.ofName? name with
  | some kind => ofKind tree settings database kind
  | none => .silent (.error (.config (.collector name)))

/-- Builds the collectors with some names, in order, until one cannot be built. -/
def buildAll (tree : FileTree) (settings : Settings) : List Text →
    Logged (Except Failure (List Collector))
  | [] => .silent (.ok [])
  | name :: rest =>
    (build tree settings none name).andThen fun c =>
      (buildAll tree settings rest).andThen fun cs => .silent (.ok (c :: cs))

def poll : Collector → FileTree → Logged (Except Failure Poll)
  | .pcie c, tree => c.poll tree
  | .kernelModules c, tree => c.poll tree

end Collector

end PciInventory
