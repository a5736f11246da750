import PciInventory.Terminal.Cell
import PciInventory.Terminal.Fault
import PciInventory.Terminal.Passage
import PciInventory.Text.Blank

/-!
# Laying out lines

A terminal has lines of a fixed number of cells. Tabs are filled up to the next eighth cell; a line
that is too long is broken in front of a word, and a word that is too long for any line is broken
where the line is full. Blanks at the end of a line that go beyond its width are dropped. At last
each stretch that is set off is drawn by itself, as far as there is room.
-/
namespace PciInventory

namespace Layout

/-- The cells of a line. A terminal has the width that its user gives it; this is the width of the
one that the plain console stands for, a terminal without colours whose lines are set to 400 cells
before the program starts. -/
def lineWidth : Nat := 400

/-- The cells from one tab stop to the next, if no other width is asked for. -/
def tabWidth : Nat := 8

/-- A part of a line with spaces in place of the tab at its end, at least one, up to a tab stop. The
first of them counts as if it were drawn behind the part. A stretch that includes the tab includes
the spaces. -/
def fillPart (part : Passage) : Passage :=
  if part.text.getLast? = some '\t' then
    let text := part.text.dropLast ++ [' ']
    let spaces := (tabWidth - Cell.count text % tabWidth) % tabWidth
    ⟨text ++ List.replicate spaces ' ', part.spans.map fun s =>
      if part.text.length ≤ s.stop then { s with stop := s.stop + spaces } else s⟩
  else part

/-- The parts of a line, each up to a tab and with it. -/
def tabParts (line : Text) : List Text :=
  match (line.splitOn '\t').reverse with
  | [] => []
  | last :: parts => (last :: parts.map (· ++ ['\t'])).reverse

def expandTabs (line : Passage) : Passage :=
  if line.text.contains '\t' then
    ((line.pieces 0 (tabParts line.text)).map fillPart).foldr Passage.append ⟨[], []⟩
  else line

/-- The words of a line, each with the blanks behind it, and the first one with those in front. A
line of blanks has no words. -/
def wordsWithBlanks (line : Text) : List Text :=
  match line.splitBy fun a b => !(Text.isBlank a && !Text.isBlank b) with
  | [] => []
  | [only] => if only.all Text.isBlank then [] else [only]
  | first :: second :: rest =>
    if first.all Text.isBlank then (first ++ second) :: rest else first :: second :: rest

/-- A line being filled: the full lines, the last one first, and the present one with the cells
that its words take. -/
structure Filling where
  full : List Text
  present : Text
  cells : Nat

/-- The filling on a new line, which begins with a text. At the very front there is no line yet. -/
def Filling.startLine (f : Filling) (t : Text) : Filling :=
  if f.present = [] then { f with present := t, cells := Cell.count t }
  else ⟨f.present :: f.full, t, Cell.count t⟩

/-- Clusters put together into lines of the width: full lines, the last one first, and the rest. -/
def chop (width : Nat) (cs : List Cell.Cluster) : Filling :=
  cs.foldl (fun f c =>
    if width < f.cells + c.cells then ⟨f.present :: f.full, c.characters, c.cells⟩
    else { f with present := f.present ++ c.characters, cells := f.cells + c.cells }) ⟨[], [], 0⟩

def Filling.addWord (width : Nat) (f : Filling) (word : Text) : Filling :=
  let cells := Cell.count (word.trimEndBy Text.isBlank)
  if f.cells + cells ≤ width then
    { f with present := f.present ++ word, cells := f.cells + Cell.count word }
  else if width < cells then
    let chopped := chop width (Cell.clusters word)
    ((chopped.full.reverse.foldl Filling.startLine f)).startLine chopped.present
  else if f.cells = 0 then { f with present := f.present ++ word }
  else f.startLine word

/-- A line without the blanks at its end that stand behind the first `width` characters. -/
def dropExcessBlanks (width : Nat) (line : Passage) : Passage :=
  let blanks := line.text.length - (line.text.trimEndBy Text.isBlank).length
  let excess := min blanks (line.text.length - width)
  if excess = 0 then line else line.crop (line.text.length - excess)

/-- The clusters that fit into some cells; a cell that only a part of the next one would fit into is
left empty. -/
def fitClusters (width : Nat) : List Cell.Cluster → Text
  | [] => []
  | c :: rest =>
    if c.cells ≤ width then c.characters ++ fitClusters (width - c.cells) rest
    else List.replicate width ' '

def total : List Nat → Nat
  | [] => 0
  | n :: rest => n + total rest

/-- A text cut off behind some cells, which are looked for among its clusters. -/
def cut (width : Nat) (t : Text) : Except CuttingFault Text :=
  if Cell.count t ≤ width then .ok t
  else
    let clusters := Cell.clusters t
    let cells := total (clusters.map Cell.Cluster.cells)
    if cells = 0 then .error .noCells
    else if cells < width then .error .tooFewCells
    else .ok (fitClusters width clusters)

/-- A line cut off behind its width. If it loses characters, stretches behind it are lost too. -/
def cutLine (width : Nat) (line : Passage) : Except CuttingFault Passage :=
  (cut width line.text).map fun text =>
    if text.length < line.text.length then { line.crop text.length with text := text }
    else { line with text := text }

/-- The texts that a line without tabs is broken into. -/
def brokenText (width : Nat) (line : Text) : List Text :=
  let filled := (wordsWithBlanks line).foldl (Filling.addWord width) ⟨[], [], 0⟩
  if wordsWithBlanks line = [] then [line] else (filled.present :: filled.full).reverse

def breakLine (width : Nat) (line : Passage) : Except CuttingFault (List Passage) :=
  if 2 * line.text.length ≤ width then .ok [line]
  else (line.pieces 0 (brokenText width line.text)).mapM fun line =>
    cutLine width (dropExcessBlanks width line)

def lines (p : Passage) : Except CuttingFault (List Passage) :=
  (p.lines.mapM fun line => breakLine lineWidth (expandTabs line)).map List.flatten

/-- As much as there is room for of texts that are drawn one by one and together need more. -/
def fitParts (width : Nat) : List Text → Except CuttingFault Text
  | [] => .ok []
  | part :: rest =>
    if Cell.count part < width then
      (fitParts (width - Cell.count part) rest).map (part ++ ·)
    else cut width part

/-- A line as it is drawn, stretch by stretch. -/
def drawLine (width : Nat) (line : Passage) : Except CuttingFault Text :=
  let parts := line.parts
  if width < total (parts.map Cell.count) then fitParts width parts else .ok line.text

def draw : List Passage → Text × Option CuttingFault
  | [] => ([], none)
  | line :: rest =>
    match drawLine lineWidth line with
    | .error fault => ([], some fault)
    | .ok text =>
      let later := draw rest
      (text ++ '\n' :: later.1, later.2)

example : ["a\tb", "\t", "12345678\tx", "日本語x\ty"].map
    (fun t => (expandTabs ⟨t.toList, []⟩).text) =
    ["a       b", "        ", "12345678        x", "日本語x y"].map String.toList := by
  decide +kernel
example : (brokenText 6 "ab cd efg hijklmnop q".toList).map String.ofList =
    ["ab cd ", "efg ", "hijklm", "nop q"] := by decide +kernel
example : (drawLine 4 ⟨"abc\u200Ddef".toList, [⟨4, 7, none⟩]⟩).toOption =
    some "abc\u200Dd".toList := by decide +kernel
example : (cut 1 "\u200D\u200D日".toList).toOption = none := by decide +kernel

end Layout

end PciInventory
