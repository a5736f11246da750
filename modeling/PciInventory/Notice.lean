import PciInventory.Device.Attribute
import PciInventory.LogLevel

/-!
# Notices

What the program has to say beside its results. Each notice is a fact; its level and its wording
are decided here.
-/
namespace PciInventory

/-- A fact worth a line in the log. -/
inductive Notice where
  | databaseRefused (path : Text) (refusal : Refusal)
  | databaseLoaded (vendors classes : Nat) (path : Text)
  | databaseMissing (paths : List Text)
  | attributeMissing (slot : Text) (link : LinkAttribute)
  | attributeMisread (slot : Text) (link : LinkAttribute) (error : ParseError)
  | deviceSkipped (slot : Text) (why : Failure)
  | devicesCollected (count : Nat) (root : Text)
  | moduleNumbersBad (name size refcount : Text)
  | moduleStateUnknown (name state : Text)
  | pollDone (kind : CollectorKind) (count : Nat)
  deriving DecidableEq

namespace Notice

def level : Notice → LogLevel
  | .deviceSkipped .. => .warning
  | .moduleNumbersBad .. => .warning
  | .moduleStateUnknown .. => .warning
  | .pollDone .. => .info
  | _ => .debug

def message : Notice → Text
  | .databaseRefused path refusal =>
    "pci.ids candidate ".toList ++ path ++ " not readable: ".toList ++ refusal.message path
  | .databaseLoaded vendors classes path =>
    "loaded ".toList ++ Text.ofNat vendors ++ " vendors and ".toList ++ Text.ofNat classes ++
      " classes from ".toList ++ path
  | .databaseMissing paths =>
    "no pci.ids database found in ".toList ++ (Detail.list (paths.map .text)).written ++
      "; names fall back to raw ids".toList
  | .attributeMissing slot link =>
    slot ++ ": ".toList ++ link.fileName ++ " not available".toList
  | .attributeMisread slot link error =>
    slot ++ ": failed to parse ".toList ++ link.fileName ++ ": ".toList ++ error.report.text
  | .deviceSkipped slot why => "skipping PCI device ".toList ++ slot ++ ": ".toList ++ why.text
  | .devicesCollected count root =>
    "collected ".toList ++ Text.ofNat count ++ " PCI devices from ".toList ++ root
  | .moduleNumbersBad name size refcount =>
    "kernel module ".toList ++ name ++ ": bad size/refcount ".toList ++ Text.quoted size ++
      '/' :: Text.quoted refcount
  | .moduleStateUnknown name state =>
    "kernel module ".toList ++ name ++ ": unknown state ".toList ++ Text.quoted state
  | .pollDone kind count => kind.name ++ ": ".toList ++ Text.ofNat count ++ " entities".toList

end Notice

structure Logged (Result : Type) where
  notices : List Notice
  result : Result

namespace Logged

variable {A B : Type}

/-- A result about which there is nothing to say. -/
def silent (a : A) : Logged A := ⟨[], a⟩

/-- A step after another, unless that one failed. -/
def andThen (first : Logged (Except Failure A)) (next : A → Logged (Except Failure B)) :
    Logged (Except Failure B) :=
  match first.result with
  | .error e => ⟨first.notices, .error e⟩
  | .ok a => ⟨first.notices ++ (next a).notices, (next a).result⟩

end Logged

end PciInventory
