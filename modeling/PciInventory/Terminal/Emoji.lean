import PciInventory.Terminal.Emoji.Table
import PciInventory.Text.Blank
import PciInventory.Text.Case

/-!
# Pictures by name

A word between two colons stands for the picture with that name, in capitals or not. An ending of
the word may say in which form the picture is to be drawn. A word that names no picture stays as it
is, and the colon behind it begins no further word.
-/
namespace PciInventory.Emoji

/-- The mark that asks for a picture in colour. -/
def coloured : Char := '\uFE0F'

/-- The mark that asks for a picture drawn like a letter. -/
def lettered : Char := '\uFE0E'

/-- A word without the ending that says how a picture is drawn, and the mark for that ending. -/
def splitForm (word : Text) : Text × Text :=
  if "-emoji".toList.isSuffixOf word then (Text.dropEnding "-emoji".toList word, [coloured])
  else if "-text".toList.isSuffixOf word then (Text.dropEnding "-text".toList word, [lettered])
  else (word, [])

example : ["warning-emoji", "warning-text", "-text", "text"].map
    (fun word => (String.ofList (splitForm word.toList).1, (splitForm word.toList).2)) =
      [("warning", [coloured]), ("warning", [lettered]), ("", [lettered]), ("text", [])] := by
  decide +kernel

/-- The picture that a word stands for. -/
def picture? (word : Text) : Option Text :=
  let (name, form) := splitForm word
  (rows.lookup (Text.lower name)).map (· ++ form)

/-- Puts a text together again from its parts between colons, with pictures for the words that
stand for one. -/
def joinParts : List Text → Text
  | [] => []
  | [part] => part
  | [part, last] => part ++ ':' :: last
  | part :: word :: next :: rest =>
    if word.any Text.isBlank then part ++ ':' :: joinParts (word :: next :: rest)
    else part ++ (picture? word).getD (':' :: word ++ [':']) ++ joinParts (next :: rest)

def replace (t : Text) : Text := joinParts (t.splitOn ':')

end PciInventory.Emoji
