import PciInventory.Device.Poll
import PciInventory.KernelModule.Row
import PciInventory.Text.Chunks

/-!
# Polling the kernel modules

A poll reads the whole module list and yields three observations for each module: its state, its
size and its reference count.
-/
namespace PciInventory

def moduleStateMetric : Text := metricName "kernel_module".toList "state".toList

def moduleSizeMetric : Text := metricName "kernel_module".toList "size_bytes".toList

def moduleRefcountMetric : Text := metricName "kernel_module".toList "refcount".toList

def KernelModule.observations (m : KernelModule) : List Observation :=
  let labels := [("module".toList, m.name)]
  [⟨moduleStateMetric, labels, m.state⟩, ⟨moduleSizeMetric, labels, m.size⟩,
    ⟨moduleRefcountMetric, labels, m.refcount⟩]

/-- The modules in the rows of a list. Rows are read while the list is decoded, so that a list that
is not UTF-8 has had the rows of its clear chunks read before the fault is met. -/
def readModuleBytes (bytes : List UInt8) : Logged (Except Failure (List KernelModule)) :=
  match Text.Utf8.decode? bytes with
  | some t => readModuleRows (Text.lines t)
  | none =>
    (readModuleRows (Text.linesBeforeFault Text.chunkSize bytes)).andThen fun _ =>
      .silent (.error .undecodable)

/-- The collector of kernel modules: the path of the module list. -/
structure ModuleCollector where
  path : Text
  deriving DecidableEq

namespace ModuleCollector

def readModules (c : ModuleCollector) (tree : FileTree) :
    Logged (Except Failure (List KernelModule)) :=
  if Path.isPassable c.path then
    match tree.contentAt c.path with
    | .error refusal => .silent (.error (.enumeration ⟨.modules, refusal, c.path⟩))
    | .ok bytes => readModuleBytes bytes
  else .silent (.error .nulInPath)

def poll (c : ModuleCollector) (tree : FileTree) : Logged (Except Failure Poll) :=
  let modules := c.readModules tree
  ⟨modules.notices,
    modules.result.map fun ms => ⟨ms.length, ms.flatMap KernelModule.observations⟩⟩

end ModuleCollector

end PciInventory
