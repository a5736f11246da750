import PciInventory.Json.Basic
import PciInventory.Table
import PciInventory.Text.Quoted

/-!
# Reports

What a failure tells the user: its kind, one sentence, and named details. A report has a form on
one line, in which the details follow the sentence in brackets, and a JSON form.
-/
namespace PciInventory

/-- A value that a report gives as a detail. -/
inductive Detail where
  | absent
  | truth (value : Bool)
  | whole (value : Int)
  | text (value : Text)
  | list (items : List Detail)
  | record (members : List (Text × Detail))

namespace Detail

mutual

/-- A detail in words: texts in quotes, lists and records in brackets. -/
def written : Detail → Text
  | .absent => "None".toList
  | .truth true => "True".toList
  | .truth false => "False".toList
  | .whole n => Text.ofInt n
  | .text t => Text.quoted t
  | .list [] => "[]".toList
  | .list (item :: items) => '[' :: written item ++ writtenItems items ++ [']']
  | .record [] => ['\x7b', '\x7d']
  | .record ((name, value) :: members) =>
    '\x7b' :: Text.quoted name ++ ": ".toList ++ written value ++ writtenMembers members ++ ['\x7d']

/-- The items of a list after the first. -/
def writtenItems : List Detail → Text
  | [] => []
  | item :: items => ", ".toList ++ written item ++ writtenItems items

/-- The members of a record after the first. -/
def writtenMembers : List (Text × Detail) → Text
  | [] => []
  | (name, value) :: members =>
    ", ".toList ++ Text.quoted name ++ ": ".toList ++ written value ++ writtenMembers members

end

mutual

def toJson : Detail → Json
  | .absent => .null
  | .truth value => .bool value
  | .whole n => .ofInt n
  | .text t => .text t
  | .list items => .array (itemsToJson items)
  | .record members => .object (membersToJson members)

def itemsToJson : List Detail → List Json
  | [] => []
  | item :: items => toJson item :: itemsToJson items

def membersToJson : List (Text × Detail) → List (Text × Json)
  | [] => []
  | (name, value) :: members => (name, toJson value) :: membersToJson members

end

end Detail

inductive FailureKind where
  | general
  | parse
  | enumeration
  | config
  deriving DecidableEq

def FailureKind.name : FailureKind → Text
  | .general => "PciscopeError".toList
  | .parse => "ParseError".toList
  | .enumeration => "EnumerationError".toList
  | .config => "ConfigError".toList

/-- What a failure tells. -/
structure Report where
  kind : FailureKind
  message : Text
  details : Table Text Detail

namespace Report

/-- A report on a text that could not be read; the text is a detail, if it is given. -/
def parse (message : Text) (value : Option Text) : Report :=
  ⟨.parse, message, .ofRows (value.toList.map fun v => ("value".toList, .text v))⟩

/-- A report on a listing that could not be had; its path is a detail, if it is given and is not
the empty one. -/
def enumeration (message : Text) (path : Option Text) : Report :=
  ⟨.enumeration, message,
    .ofRows ((path.filter (!·.isEmpty)).toList.map fun p => ("path".toList, .text p))⟩

/-- A report on settings, with one detail. -/
def config (message name value : Text) : Report :=
  ⟨.config, message, .ofRows [(name, .text value)]⟩

/-- The details, separated by commas. -/
def detailText (r : Report) : Text :=
  Text.joinWith ", ".toList (r.details.rows.map fun row => row.1 ++ '=' :: row.2.written)

def text (r : Report) : Text :=
  if r.details.isEmpty then r.message else r.message ++ " (".toList ++ r.detailText ++ [')']

def detailsJson (r : Report) : Json := .object (Detail.membersToJson r.details.rows)

def toJson (r : Report) : Json :=
  .object [("error_type".toList, .text r.kind.name), ("message".toList, .text r.message),
    ("details".toList, r.detailsJson)]

end Report

end PciInventory
