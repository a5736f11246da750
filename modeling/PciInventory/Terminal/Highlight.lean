import PciInventory.Terminal.Cell
import PciInventory.Terminal.Highlight.Pattern
import PciInventory.Terminal.Passage
import PciInventory.Text.Digit

/-!
# Highlights

In a message, what looks like a value is set off: tags in angle brackets, names with what they are
set to, brackets, addresses, calls, the words for truth values, numbers, paths, quoted texts and
links. The colours do not matter here, but the edges do: a text is drawn stretch by stretch, and a
joiner does not reach into the next one.
-/
namespace PciInventory.Highlight

open Pattern

/-- A character out of some. -/
def among (cs : String) : Pattern := character fun c => cs.toList.contains c

def wordCharacter : Pattern := character Text.isWordCharacter

/-- A character of a word or one out of some. -/
def wordOr (cs : String) : Pattern :=
  character fun c => Text.isWordCharacter c || cs.toList.contains c

/-- Any character that does not end a line. -/
def inLine : Pattern := character (· != '\n')

def digit : Pattern := character Char.isDigit

def hexDigit : Pattern :=
  character fun c =>
    c.isDigit || (decide ('a' ≤ c.toLower) && decide (c.toLower ≤ 'f'))

/-- A tag in angle brackets, up to the last bracket. -/
def tag : Pattern :=
  inOrder [noted (exactly "<"), noted (many (wordOr "-.:|")),
    noted (many (character fun _ => true)), noted (exactly ">")]

/-- A name and what it is set to. -/
def setting : Pattern :=
  inOrder [noted (upTo 50 wordCharacter), exactly "=",
    optional (noted (inOrder [optional (exactly "\""), several wordCharacter,
      optional (exactly "\"")]))]

def bracket : Pattern := noted (among "[]\x7b\x7d()")

def fourNumbers : Pattern :=
  noted (inOrder [times 3 (both (upTo 3 digit) (exactly ".")), upTo 3 digit])

/-- Groups of hexadecimal digits with colons between them. -/
def groupAddress : Pattern :=
  noted (both (upTo 7 (inOrder [upTo 4 hexDigit, exactly ":", optional (exactly ":")]))
    (upTo 4 hexDigit))

/-- Pairs of hexadecimal digits or groups of four, with the same sign between them. -/
def deviceAddress (pairs fours : Nat) : Pattern :=
  noted (oneOf [both (times (pairs - 1) (both (upTo 2 hexDigit) (exactly "-"))) (upTo 2 hexDigit),
    both (times (pairs - 1) (both (upTo 2 hexDigit) (exactly ":"))) (upTo 2 hexDigit),
    both (times (fours - 1) (both (times 4 hexDigit) (exactly "."))) (times 4 hexDigit)])

def longIdentifier : Pattern :=
  noted (both (times 8 hexDigit) (both (times 3 (both (exactly "-") (times 4 hexDigit)))
    (both (exactly "-") (times 12 hexDigit))))

def call : Pattern := both (noted (repeated false (wordOr "."))) (exactly "(")

def wholeWord (word : String) : Pattern :=
  inOrder [wordEdge true, noted (exactly word), wordEdge true]

/-- An exponent, whose digits are taken one by one or all together. -/
def exponent (greedy : Bool) : Pattern :=
  let anyDigit := character Text.isDigit
  inOrder [exactly "e", optional (among "+-"), anyDigit, repeated greedy anyDigit]

def unsigned (greedy : Bool) : Pattern :=
  inOrder [several digit, optional (exactly "."), many digit, optional (exponent greedy)]

/-- A number, perhaps a sum of two, that is imaginary. -/
def imaginary : Pattern :=
  noted (inOrder [notBehind Text.isWordCharacter, optional (exactly "-"), unsigned false,
    optional (both (among "+-") (unsigned true)), exactly "j"])

def number : Pattern :=
  noted (either
    (inOrder [notBehind Text.isWordCharacter, optional (exactly "-"), unsigned false,
      wordEdge true])
    (both (exactly "0x") (many hexDigit)))

/-- A path of folders, and the name of a file in the last of them. -/
def path : Pattern :=
  let name := wordOr "-._+"
  both (noted (inOrder [wordEdge false, many (both (exactly "/") (several name)), exactly "/"]))
    (optional (noted (many name)))

/-- A text between quotes, up to the next ones without a backslash in front of them. -/
def between (quotes : String) : Pattern :=
  inOrder [optional (exactly "b"), exactly quotes, repeated false inLine, notBehind (· == '\\'),
    exactly quotes]

/-- A text in single or double quotes, one or three of them. -/
def quoted : Pattern :=
  both (notBehind fun c => c == '\\' || Text.isWordCharacter c)
    (noted (oneOf (["'''", "'", "\"\"\"", "\""].map between)))

def link : Pattern :=
  noted (inOrder [oneOf (["file", "https", "http", "ws", "wss"].map exactly), exactly "://",
    many (character fun c => c.isAlphanum || "-$_+!`(),.?/;:&=%#~@".toList.contains c)])

def value : Pattern :=
  oneOf [fourNumbers, groupAddress, deviceAddress 8 4, deviceAddress 6 3, longIdentifier, call,
    wholeWord "True", wholeWord "False", wholeWord "None", noted (exactly "..."), imaginary, number,
    path, quoted, link]

/-- The stretches of a text that are set off. -/
def stretches (t : Text) : List (Nat × Nat) := [tag, setting, bracket, value].flatMap (·.find t)

/-- Whether a character reaches beyond its place, so that the edges beside it can be seen. -/
def isReaching (c : Char) : Bool := c == Cell.joiner || c == Cell.pictureMark

/-- A passage with what looks like a value set off. Without a character that reaches beyond its
place nothing would be drawn differently, and the passage stays as it is. -/
def mark (p : Passage) : Passage :=
  if p.text.any isReaching then
    { p with spans := (stretches p.text).map (fun (a, b) => ⟨a, b, none⟩) ++ p.spans }
  else p

example : ["x=1", "f(a)", "None", "-1.5e3", "/a/b.c", "it's 'a'", "1:2:3"].map
    (value.find ·.toList) =
    [[(2, 3)], [(0, 1)], [(0, 4)], [(0, 6)], [(3, 6), (0, 3)], [(5, 8)], [(0, 5)]] := by
  decide +kernel

end PciInventory.Highlight
