import PciInventory.Observation
import PciInventory.Terminal.Markup
import PciInventory.Text.Quoted

/-!
# Observations as a table

A table has a row for each observation: the metric, the labels in one cell, and the value to six
digits. Labels are written as a name, an equals sign and the value in quotes, so that the cell can
be taken apart again whatever the values hold.
-/
namespace PciInventory

/-- A table of texts. -/
structure ObservationTable where
  title : Text
  columns : List Text
  rows : List (List Text)
  deriving DecidableEq

namespace ObservationTable

def labelText (label : Text × Text) : Text := label.1 ++ '=' :: Text.quoted label.2

def labelsCell (labels : Labels) : Text := Text.joinWith ", ".toList (labels.map labelText)

def row (o : Observation) : List Text :=
  [o.name, Markup.escape (labelsCell o.labels), o.value.briefText]

def ofObservations (os : List Observation) : ObservationTable :=
  ⟨"Observations".toList, ["metric".toList, "labels".toList, "value".toList], os.map row⟩

end ObservationTable

end PciInventory
