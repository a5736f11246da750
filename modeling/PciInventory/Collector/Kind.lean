import PciInventory.Text.Basic

/-!
# The kinds of collector

There are two collectors, and each is chosen by its name.
-/
namespace PciInventory

inductive CollectorKind where
  | kernelModules
  | pcie
  deriving DecidableEq

namespace CollectorKind

/-- The name by which a collector is chosen. -/
def name : CollectorKind → Text
  | .kernelModules => "kernelmodules".toList
  | .pcie => "pcie".toList

/-- Every kind, in rising order of the names. -/
def all : List CollectorKind := [.kernelModules, .pcie]

/-- The kind with a name. -/
def ofName? (t : Text) : Option CollectorKind := all.find? fun kind => decide (kind.name = t)

theorem mem_all (kind : CollectorKind) : kind ∈ all := by cases kind <;> decide

theorem ofName?_eq_some_iff {t : Text} {kind : CollectorKind} :
    ofName? t = some kind ↔ t = kind.name := by
  constructor
  · intro h
    have named : decide (kind.name = t) = true := by
      have := List.find?_some h
      exact this
    exact (of_decide_eq_true named).symm
  · rintro rfl
    cases kind <;> decide

end CollectorKind

end PciInventory
