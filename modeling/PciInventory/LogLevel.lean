import PciInventory.Text.Basic

/-!
# Log levels

A level is chosen by a name and orders records by a weight. Two levels have two names each.
-/
namespace PciInventory

/-- The names of the levels. -/
inductive LogLevel where
  | notset
  | debug
  | info
  | warn
  | warning
  | error
  | fatal
  | critical
  deriving DecidableEq

namespace LogLevel

def all : List LogLevel := [.notset, .debug, .info, .warn, .warning, .error, .fatal, .critical]

def name : LogLevel → Text
  | .notset => "NOTSET".toList
  | .debug => "DEBUG".toList
  | .info => "INFO".toList
  | .warn => "WARN".toList
  | .warning => "WARNING".toList
  | .error => "ERROR".toList
  | .fatal => "FATAL".toList
  | .critical => "CRITICAL".toList

/-- How much a record of a level matters. -/
def weight : LogLevel → Nat
  | .notset => 0
  | .debug => 10
  | .info => 20
  | .warn => 30
  | .warning => 30
  | .error => 40
  | .fatal => 50
  | .critical => 50

def ofName? (t : Text) : Option LogLevel := all.find? fun level => decide (level.name = t)

theorem ofName?_eq_some_iff {t : Text} {level : LogLevel} :
    ofName? t = some level ↔ t = level.name := by
  constructor
  · intro h
    have named : decide (level.name = t) = true := by
      have := List.find?_some h
      exact this
    exact (of_decide_eq_true named).symm
  · rintro rfl
    cases level <;> decide

end LogLevel

end PciInventory
