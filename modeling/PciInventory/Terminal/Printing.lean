import PciInventory.Terminal.Console
import PciInventory.Terminal.Highlight
import PciInventory.Terminal.Layout
import PciInventory.Terminal.Markup.Reading
import PciInventory.Text.Lines

/-!
# Printing on a terminal

There are two ways to print a line. A message may hold style tags; they are left out, and what
remains is laid out in lines of the terminal's width. Styles that no character is left of are not
looked at. A plain line is printed as it is, but for the sequences that would switch the terminal's
colours, and for the carriage returns that belong to a line end.
-/
namespace PciInventory.Terminal

/-- A message on lines of its own, and what went wrong on the way. What has been drawn before a line
that cannot be drawn is printed. -/
def message (t : Text) : Text × Option Failure :=
  match Markup.passage t with
  | .error fault => ([], some (.markup fault))
  | .ok p =>
    match Layout.lines (Highlight.mark p) with
    | .error fault => ([], some (.cutting fault))
    | .ok lines =>
      if lines.all Markup.isMixable then (Layout.draw lines).map id (·.map .cutting)
      else ([], some (.markup .mixedFromNoNumber))

/-- Whether a character can be part of the numbers of a colour sequence. -/
def isParameter (c : Char) : Bool :=
  c == ';' || c == '?' || (decide ('0' ≤ c) && decide (c ≤ '9'))

/-- What follows a colour sequence whose first two characters are gone. -/
def afterSequence? (t : Text) : Option Text :=
  match t.dropWhile isParameter with
  | c :: rest => if c.isAlpha then some rest else none
  | [] => none

/-- A text without colour sequences, for each of whose characters there is fuel. -/
def dropColours : Nat → Text → Text
  | 0, _ => []
  | _ + 1, [] => []
  | fuel + 1, '\x1b' :: '[' :: rest =>
    match afterSequence? rest with
    | some rest => dropColours fuel rest
    | none => '\x1b' :: dropColours fuel ('[' :: rest)
  | fuel + 1, c :: rest => c :: dropColours fuel rest

def withoutColours (t : Text) : Text := if t.contains '\x1b' then dropColours t.length t else t

/-- A plain line. A carriage return in front of a line feed is no character of its own, also where
the line feed is the one that ends the line. -/
def line (t : Text) : Text := Text.shortenLineEnds (withoutColours t ++ ['\n'])

end PciInventory.Terminal

namespace PciInventory

/-- The console that a command is run with unless another one is given: a terminal without colours,
with lines of one fixed width. -/
def Console.plain : Console := ⟨Terminal.message, Terminal.line⟩

end PciInventory
