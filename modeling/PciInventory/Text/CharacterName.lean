import PciInventory.Text.Basic
import PciInventory.Text.CharacterName.AToC
import PciInventory.Text.CharacterName.DToK
import PciInventory.Text.CharacterName.LToO
import PciInventory.Text.CharacterName.PToZ
import PciInventory.Text.Spans

/-!
# Names of characters

Characters have names in capital letters. Those of ideographs are made from their numbers, those of
Hangul syllables from the names of their parts; all others, and second names, are listed. A listed
name may be written in small letters too.
-/
namespace PciInventory.Text

/-- The words of a listed name, from its entry and the words of the name before it. -/
def listedName (previous : List Text) : Text → List Text
  | count :: words => previous.take (count.toNat - '0'.toNat) ++ words.splitOn ' '
  | [] => previous

/-- Whether some words are one of the names listed behind the name `previous`. -/
def isListedBehind (name : List Text) (previous : List Text) : List Text → Bool
  | [] => false
  | entry :: rest =>
    let words := listedName previous entry
    decide (words = name) || isListedBehind name words rest

def nameEntries (list : String) : List Text :=
  (list.toList.map fun c => if c = '\n' then ';' else c).splitOn ';'

def isListedName (name : Text) : Bool :=
  [namesFromAToC, namesFromDToK, namesFromLToO, namesFromPToZ].any fun list =>
    isListedBehind (name.splitOn ' ') [] (nameEntries list)

/-- The ideographs that are named by their numbers. -/
def ideographSpans : Spans :=
  [(0x3400, 0x4DBF), (0x4E00, 0x9FFF), (0x20000, 0x2A6DF), (0x2A700, 0x2B738), (0x2B740, 0x2B81D),
   (0x2B820, 0x2CEA1), (0x2CEB0, 0x2EBE0), (0x30000, 0x3134A)]

def capitalHexValue? (c : Char) : Option Nat :=
  if c.isDigit then some (c.toNat - '0'.toNat)
  else if decide ('A' ≤ c) && decide (c ≤ 'F') then some (c.toNat - 'A'.toNat + 10)
  else none

/-- Whether a text is the number of an ideograph, in four or five digits. -/
def isIdeographNumber (t : Text) : Bool :=
  match t.mapM capitalHexValue? with
  | some digits =>
    (t.length == 4 || t.length == 5) &&
      ideographSpans.contains (digits.foldl (fun n d => 16 * n + d) 0)
  | none => false

/-- The consonants with which a Hangul syllable begins; there may be none. -/
def initialConsonants : List Text :=
  ["", "G", "GG", "N", "D", "DD", "R", "M", "B", "BB", "S", "SS", "J", "JJ", "C", "K", "T", "P",
    "H"].map String.toList

def syllableVowels : List Text :=
  ["A", "AE", "YA", "YAE", "EO", "E", "YEO", "YE", "O", "WA", "WAE", "OE", "YO", "U", "WEO", "WE",
    "WI", "YU", "EU", "YI", "I"].map String.toList

/-- The consonants with which a Hangul syllable ends; there may be none. -/
def finalConsonants : List Text :=
  ["", "G", "GG", "GS", "N", "NJ", "NH", "D", "L", "LG", "LM", "LB", "LS", "LT", "LP", "LH", "M",
    "B", "BS", "S", "SS", "NG", "J", "C", "K", "T", "P", "H"].map String.toList

/-- A text without the longest of some parts that it begins with. -/
def dropLongest? (parts : List Text) (t : Text) : Option Text :=
  match (parts.filter (·.isPrefixOf t)).map List.length with
  | [] => none
  | n :: ns => some (t.drop (ns.foldl max n))

def isSyllable (t : Text) : Bool :=
  ((dropLongest? initialConsonants t).bind (dropLongest? syllableVowels)).bind
    (dropLongest? finalConsonants) = some []

def syllablePrefix : Text := "HANGUL SYLLABLE ".toList

def ideographPrefix : Text := "CJK UNIFIED IDEOGRAPH-".toList

def isCharacterName (t : Text) : Bool :=
  if syllablePrefix.isPrefixOf t then isSyllable (t.drop syllablePrefix.length)
  else if ideographPrefix.isPrefixOf t then isIdeographNumber (t.drop ideographPrefix.length)
  else isListedName (t.map Char.toUpper)

example : ["GAG", "A", "SSEUBS"].map (isSyllable ·.toList) = [true, true, true] := by decide +kernel
example : ["4E00", "04E00", "4e00", "33FF", "4E0"].map (isIdeographNumber ·.toList) =
    [true, true, false, false, false] := by decide +kernel
example : ["ONE", "ONE SMALL", "ONE SMALL STEP", "ONE LEAP"].map (fun name =>
    isListedBehind (name.toList.splitOn ' ') [] (nameEntries "0ONE;1SMALL STEP\n1LEAP")) =
    [true, false, true, true] := by decide +kernel

end PciInventory.Text
