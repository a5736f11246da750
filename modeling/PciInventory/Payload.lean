import PciInventory.Json.Printer
import PciInventory.Observation
import PciInventory.Table

/-!
# Observations as JSON

An array with an object for each observation. Labels are an object in their order; of two labels
with one name the later gives the value. A value that is no finite number is written by a word.
-/
namespace PciInventory.Payload

def numberToken : Binary64 → Text
  | .infinite negative => (if negative then ['-'] else []) ++ "Infinity".toList
  | .notANumber => "NaN".toList
  | x => x.text

def ofLabels (labels : Labels) : Json :=
  .object ((Table.ofRows labels).rows.map fun row => (row.1, .text row.2))

def ofObservation (o : Observation) : Json :=
  .object [("name".toList, .text o.name), ("labels".toList, ofLabels o.labels),
    ("value".toList, .number (numberToken o.value))]

def ofObservations (os : List Observation) : Json := .array (os.map ofObservation)

/-- The text of some observations. -/
def text (os : List Observation) : Text := (ofObservations os).indented

end PciInventory.Payload
