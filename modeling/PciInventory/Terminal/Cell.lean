import PciInventory.Terminal.Cell.Table
import PciInventory.Text.Basic

/-!
# Cells

A terminal draws a text in cells of one width. Most characters take one cell, some take two and
some none. A joiner swallows the character behind it, and a picture mark widens the symbol in front
of it. What is drawn in one place is a cluster; a text is the row of its clusters.
-/
namespace PciInventory.Cell

/-- The character that joins the pictures on its two sides into one. -/
def joiner : Char := '\u200D'

/-- The character that asks for the picture form of the symbol in front of it. -/
def pictureMark : Char := '\uFE0F'

def isControl (c : Char) : Bool :=
  decide (c.toNat < 0x20) || (decide (0x7F ≤ c.toNat) && decide (c.toNat < 0xA0))

/-- How many cells a character takes by itself. The tables begin behind the Latin letters. -/
def ofChar (c : Char) : Nat :=
  if isControl c then 0
  else if c.toNat < 0x300 then 1
  else if noCellSpans.contains c.toNat then 0
  else if twoCellSpans.contains c.toNat then 2
  else 1

/-- Whether a symbol is widened by a picture mark. -/
def isWidened (c : Char) : Bool := pictureSpans.contains c.toNat

/-- The cells of a text behind the symbol `last`, which a picture mark may still widen. -/
def countFrom (last : Option Char) : Text → Nat
  | [] => 0
  | c :: rest =>
    if c = joiner then
      match rest with
      | [] => 0
      | _ :: rest => countFrom last rest
    else if c = pictureMark then
      (if last.any isWidened then 1 else 0) + countFrom none rest
    else match ofChar c with
      | 0 => countFrom last rest
      | n => n + countFrom (some c) rest

def count (t : Text) : Nat := countFrom none t

/-- Characters that are drawn in one place. -/
structure Cluster where
  characters : Text
  cells : Nat
  deriving DecidableEq

/-- A text being taken apart: its clusters, the last one first; the symbol that a picture mark may
still widen; and whether a joiner has just been read. -/
structure Splitter where
  clusters : List Cluster
  widenable : Option Char
  joining : Bool

/-- The splitter after a character that belongs to the cluster in front of it. -/
def Splitter.attach (s : Splitter) (c : Char) : Splitter :=
  match s.clusters with
  | [] => { s with clusters := [⟨[c], 0⟩] }
  | last :: earlier => { s with clusters := ⟨last.characters ++ [c], last.cells⟩ :: earlier }

def Splitter.widen (s : Splitter) : Splitter :=
  match s.clusters with
  | [] => s
  | last :: earlier =>
    { s with clusters := { last with cells := last.cells + 1 } :: earlier, widenable := none }

/-- The splitter after one more character. A joiner at the very front joins nothing. -/
def Splitter.feed (s : Splitter) (c : Char) : Splitter :=
  if s.joining then { s.attach c with joining := false }
  else if c = joiner then { s.attach c with joining := !s.clusters.isEmpty }
  else if c = pictureMark then
    if s.widenable.any isWidened then (s.attach c).widen else s.attach c
  else match ofChar c with
    | 0 => s.attach c
    | n => ⟨⟨[c], n⟩ :: s.clusters, some c, false⟩

def clusters (t : Text) : List Cluster :=
  (t.foldl Splitter.feed ⟨[], none, false⟩).clusters.reverse

example : ["ab", "日本", "e\u0301", "\u2764\uFE0F", "\x1b", "\u200B", "👨\u200D👩"].map
    (count ·.toList) = [2, 4, 1, 2, 0, 0, 2] := by decide +kernel
example : clusters "a👨\u200D👩\u0301".toList =
    [⟨['a'], 1⟩, ⟨"👨\u200D👩\u0301".toList, 2⟩] := by decide +kernel

end PciInventory.Cell
