import PciInventory.Text.Basic

/-!
# Lines

A line ends at a line feed, at a carriage return, or at the two together, and at nothing else: the
other separators of Unicode are ordinary characters here. The last line needs no end.
-/
namespace PciInventory.Text

/-- A text being read for its line ends: what is read, backwards, and whether that ended in a
carriage return, which a line feed would only complete. -/
structure LineEndReader where
  read : Text
  afterReturn : Bool

def LineEndReader.feed (r : LineEndReader) (c : Char) : LineEndReader :=
  if c = '\r' then ⟨'\n' :: r.read, true⟩
  else if c = '\n' && r.afterReturn then ⟨r.read, false⟩
  else ⟨c :: r.read, false⟩

/-- A text with every line end as a line feed. -/
def unifyLineEnds (t : Text) : Text := (t.foldl LineEndReader.feed ⟨[], false⟩).read.reverse

/-- The lines of a text whose line ends are line feeds, without those ends. -/
def linesOfUnified (t : Text) : List Text :=
  let pieces := t.splitOn '\n'
  if pieces.getLast? = some [] then pieces.dropLast else pieces

def lines (t : Text) : List Text := linesOfUnified (unifyLineEnds t)

example : unifyLineEnds ['a', '\r', '\n', '\r', '\r', '\n', '\n', 'b', '\r'] =
    ['a', '\n', '\n', '\n', '\n', 'b', '\n'] := by decide

/-- A text with a line feed for each line end of two characters. A carriage return that no line feed
follows stays. -/
def shortenLineEnds (t : Text) : Text :=
  (t.foldl (fun read c =>
    if c = '\n' && read.head? = some '\r' then '\n' :: read.tail else c :: read) []).reverse

example : shortenLineEnds ['a', '\r', '\n', '\r', '\r', '\n', '\n', 'b', '\r'] =
    ['a', '\n', '\r', '\n', '\n', 'b', '\r'] := by decide

/-- A line without the carriage returns and line feeds at its end. -/
def dropLineEnd (t : Text) : Text := t.trimEndBy fun c => c == '\r' || c == '\n'

end PciInventory.Text
