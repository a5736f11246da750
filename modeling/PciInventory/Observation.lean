import PciInventory.Number.Layout

/-!
# Observations

An observation is a metric's name, its labels in order, and a value. Observations are gathered in a
sink, which only grows and keeps them in the order in which they came.
-/
namespace PciInventory

/-- Names and values of labels, in order. -/
abbrev Labels := List (Text × Text)

/-- One measured value. -/
structure Observation where
  name : Text
  labels : Labels
  value : Binary64
  deriving DecidableEq

/-- What every metric's name starts with. -/
def metricNamespace : Text := "pciscope".toList

/-- The name of a metric: the common start, a subsystem and a name, joined by underscores as far as
they are not empty. -/
def metricName (subsystem name : Text) : Text :=
  Text.joinWith ['_'] ([metricNamespace, subsystem, name].filter (!·.isEmpty))

/-- The observations gathered so far, the oldest first. -/
structure Sink where
  observations : List Observation
  deriving DecidableEq

namespace Sink

def empty : Sink := ⟨[]⟩

def emitAll (s : Sink) (os : List Observation) : Sink := ⟨s.observations ++ os⟩

def emit (s : Sink) (o : Observation) : Sink := s.emitAll [o]

def named (s : Sink) (name : Text) : List Observation :=
  s.observations.filter fun o => decide (o.name = name)

def size (s : Sink) : Nat := s.observations.length

end Sink

end PciInventory
