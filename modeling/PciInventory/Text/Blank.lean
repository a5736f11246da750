import PciInventory.Text.Spans

/-!
# Blanks

The characters that count as white space around and between words, and the two things the rest of
the library does with them: trimming both ends of a text and taking a text apart into words.
-/
namespace PciInventory.Text

/-- The blanks: ASCII white space and separators, and the spaces and line ends of Unicode. -/
def blankSpans : Spans :=
  [(0x09, 0x0D), (0x1C, 0x20), (0x85, 0x85), (0xA0, 0xA0), (0x1680, 0x1680), (0x2000, 0x200A),
   (0x2028, 0x2029), (0x202F, 0x202F), (0x205F, 0x205F), (0x3000, 0x3000)]

def isBlank (c : Char) : Bool := blankSpans.contains c.toNat

def strip (t : Text) : Text := t.trimBy isBlank

def words (t : Text) : List Text := (t.splitOnP isBlank).filter (!·.isEmpty)

/-- The zero-width space, the byte order mark and the Mongolian vowel separator are no blanks. -/
example : ['\u200B', '\uFEFF', '\u180E'].any isBlank = false := by decide

example : ['\x1c', '\u0085', '\u00A0', '\u2003', '\u3000'].all isBlank = true := by decide

end PciInventory.Text
