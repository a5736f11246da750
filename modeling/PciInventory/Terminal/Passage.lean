import PciInventory.Text.Basic

/-!
# Passages

A passage is a text in which stretches are set off, perhaps in a style. When a passage is taken
apart, each part keeps what it has of a stretch; a stretch without characters belongs to no part and
is lost.
-/
namespace PciInventory

/-- A stretch of a text, from the character at `start` up to the one at `stop`, which is outside. -/
structure Span where
  start : Nat
  stop : Nat
  /-- The words of the style that is asked for, if there is one. -/
  style : Option Text
  deriving DecidableEq

namespace Span

/-- What a stretch has between two places, counted from the first of them. -/
def between? (first last : Nat) (s : Span) : Option Span :=
  if max s.start first < min s.stop last then
    some { s with start := max s.start first - first, stop := min s.stop last - first }
  else none

/-- A stretch cut off at a place, if it begins in front of it. -/
def before? (last : Nat) (s : Span) : Option Span :=
  if s.start < last then some { s with stop := min s.stop last } else none

def shift (n : Nat) (s : Span) : Span := { s with start := s.start + n, stop := s.stop + n }

end Span

/-- A text in which stretches are set off. -/
structure Passage where
  text : Text
  spans : List Span
  deriving DecidableEq

namespace Passage

/-- The passages for the pieces of a passage's text from some place on, between which there are
`gap` characters. -/
def piecesFrom (p : Passage) (gap first : Nat) : List Text → List Passage
  | [] => []
  | piece :: rest =>
    ⟨piece, p.spans.filterMap (·.between? first (first + piece.length))⟩ ::
      p.piecesFrom gap (first + piece.length + gap) rest

def pieces (p : Passage) (gap : Nat) : List Text → List Passage
  | [_] => [p]
  | ts => p.piecesFrom gap 0 ts

def lines (p : Passage) : List Passage := p.pieces 1 (p.text.splitOn '\n')

/-- A passage without the characters from some place on. -/
def crop (p : Passage) (n : Nat) : Passage := ⟨p.text.take n, p.spans.filterMap (·.before? n)⟩

def append (p q : Passage) : Passage :=
  ⟨p.text ++ q.text, p.spans ++ q.spans.map (·.shift p.text.length)⟩

/-- A text apart at some edges, the first of whose characters has a number. -/
def partsFrom (isEdge : Nat → Bool) : Nat → Text → List Text
  | _, [] => []
  | n, c :: rest =>
    match partsFrom isEdge (n + 1) rest with
    | [] => [[c]]
    | part :: parts =>
      if isEdge (n + 1) then [c] :: part :: parts else (c :: part) :: parts

/-- A passage's text apart wherever a stretch begins or ends. -/
def parts (p : Passage) : List Text :=
  partsFrom (fun n => p.spans.any fun s => s.start == n || s.stop == n) 0 p.text

example : (Passage.mk "ab\ncd".toList [⟨1, 4, none⟩, ⟨2, 2, none⟩]).lines =
    [⟨"ab".toList, [⟨1, 2, none⟩]⟩, ⟨"cd".toList, [⟨0, 1, none⟩]⟩] := by decide +kernel
example : ((Passage.mk "abcd".toList [⟨1, 3, none⟩, ⟨2, 2, none⟩]).parts).map String.ofList =
    ["a", "b", "c", "d"] := by decide +kernel

end Passage

end PciInventory
