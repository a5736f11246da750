import PciInventory.Text.Basic

/-!
# Style tags

Texts for the terminal may hold style tags: a small letter, `#`, `/` or `@` behind an opening
bracket, and anything but another opening bracket up to the closing one. A tag with an odd number
of backslashes in front of it is no tag but text. Text that is not meant as tags is escaped before
it is printed.
-/
namespace PciInventory

namespace Markup

/-- A text, apart into characters and tags. -/
inductive Piece where
  | plain (c : Char)
  /-- A tag's content, and the number of backslashes in front of the tag. -/
  | tag (slashes : Nat) (content : Text)
  deriving DecidableEq

/-- The characters with which a tag can begin. -/
def isTagStart (c : Char) : Bool :=
  (decide ('a' ≤ c) && decide (c ≤ 'z')) || c == '#' || c == '/' || c == '@'

/-- The content of a tag at the front of a text, and what follows the tag. -/
def tagAt? : Text → Option (Text × Text)
  | '[' :: c :: rest =>
    if isTagStart c then
      match rest.span fun d => d != '[' && d != ']' with
      | (content, ']' :: rest) => some (c :: content, rest)
      | _ => none
    else none
  | _ => none

/-- The pieces of a text. Each step takes a character away, so a text's length is enough fuel. -/
def piecesWith : Nat → Text → List Piece
  | 0, _ => []
  | fuel + 1, t =>
    let slashes := t.takeWhile (· == '\\')
    let rest := t.dropWhile (· == '\\')
    match tagAt? rest with
    | some (content, rest) => .tag slashes.length content :: piecesWith fuel rest
    | none =>
      slashes.map .plain ++ match rest with
        | [] => []
        | c :: rest => .plain c :: piecesWith fuel rest

def pieces (t : Text) : List Piece := piecesWith (t.length + 1) t

/-- A piece with its tag made text. -/
def escapePiece : Piece → Text
  | .plain c => [c]
  | .tag slashes content =>
    List.replicate (2 * slashes + 1) '\\' ++ '[' :: content ++ [']']

/-- Whether a text ends in a backslash with none in front of it. -/
def endsInSlash (t : Text) : Bool :=
  match t.reverse with
  | '\\' :: '\\' :: _ => false
  | '\\' :: _ => true
  | _ => false

/-- A text whose tags are made text. A single backslash at its end is doubled, so that it does not
turn a following tag into text. -/
def escape (t : Text) : Text :=
  let escaped := (pieces t).flatMap escapePiece
  if endsInSlash escaped then escaped ++ ['\\'] else escaped

def styled (style t : Text) : Text := '[' :: style ++ ']' :: t ++ '[' :: '/' :: style ++ [']']

/-- A text in red that is not meant as tags. -/
def alert (t : Text) : Text := styled "red".toList (escape t)

example : escape "a [b] \\[c] [D] [".toList = "a \\[b] \\\\\\[c] [D] [".toList := by decide +kernel
example : alert "[b] \\".toList = "[red]\\[b] \\\\[/red]".toList := by decide +kernel

end Markup

end PciInventory
