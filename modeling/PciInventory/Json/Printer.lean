import PciInventory.Json.Basic
import PciInventory.Text.Quoted

/-!
# Printing JSON

JSON is printed in ASCII: every other character is escaped by its UTF-16 units. There are two
forms. The compact form is one line with a space after each comma and colon. The indented form has
each item and member on a line of its own, two spaces deeper than what encloses it; an empty array
or object stays on one line in both.
-/
namespace PciInventory.Json

def unitEscape (unit : Nat) : Text := '\\' :: 'u' :: Text.Quoted.hexadecimal 4 unit

/-- A character by its UTF-16 units: one, or a surrogate pair. -/
def unitEscapes (n : Nat) : Text :=
  if n < 0x10000 then unitEscape n
  else unitEscape (0xD800 + (n - 0x10000) / 0x400) ++ unitEscape (0xDC00 + (n - 0x10000) % 0x400)

def escaped (c : Char) : Text :=
  if c = '"' then ['\\', '"']
  else if c = '\\' then ['\\', '\\']
  else if c = '\n' then ['\\', 'n']
  else if c = '\r' then ['\\', 'r']
  else if c = '\t' then ['\\', 't']
  else if c = '\x08' then ['\\', 'b']
  else if c = '\x0c' then ['\\', 'f']
  else if 0x20 ≤ c.toNat ∧ c.toNat < 0x7F then [c]
  else unitEscapes c.toNat

def printText (t : Text) : Text := '"' :: t.flatMap escaped ++ ['"']

/-- The spacing of a printed form: what follows an opening bracket or a comma at a depth, and what
stands in front of a closing bracket. -/
structure Spacing where
  afterOpening : Nat → Text
  afterComma : Nat → Text
  beforeClosing : Nat → Text

def Spacing.compact : Spacing := ⟨fun _ => [], fun _ => [' '], fun _ => []⟩

/-- A new line, indented by two spaces for each bracket that is open. -/
def Spacing.newLine (depth : Nat) : Text := '\n' :: List.replicate (2 * depth) ' '

def Spacing.indented : Spacing := ⟨newLine, newLine, newLine⟩

mutual

/-- A value inside `depth` open brackets. -/
def print (s : Spacing) (depth : Nat) : Json → Text
  | .null => "null".toList
  | .bool true => "true".toList
  | .bool false => "false".toList
  | .number token => token
  | .text content => printText content
  | .array [] => "[]".toList
  | .array (item :: items) =>
    '[' :: s.afterOpening (depth + 1) ++ print s (depth + 1) item ++
      printItems s (depth + 1) items ++ s.beforeClosing depth ++ [']']
  | .object [] => ['\x7b', '\x7d']
  | .object ((name, value) :: members) =>
    '\x7b' :: s.afterOpening (depth + 1) ++ printText name ++ [':', ' '] ++
      print s (depth + 1) value ++ printMembers s (depth + 1) members ++ s.beforeClosing depth ++
      ['\x7d']

/-- The items of an array after the first, each behind its comma. -/
def printItems (s : Spacing) (depth : Nat) : List Json → Text
  | [] => []
  | item :: items => ',' :: s.afterComma depth ++ print s depth item ++ printItems s depth items

/-- The members of an object after the first, each behind its comma. -/
def printMembers (s : Spacing) (depth : Nat) : List (Text × Json) → Text
  | [] => []
  | (name, value) :: members =>
    ',' :: s.afterComma depth ++ printText name ++ [':', ' '] ++ print s depth value ++
      printMembers s depth members

end

def compact (j : Json) : Text := print .compact 0 j

/-- A value on as many lines as it has items. -/
def indented (j : Json) : Text := print .indented 0 j

end PciInventory.Json
