import PciInventory.Text.Basic
import PciInventory.Text.WordCharacter

/-!
# Patterns

A pattern says what a text may look like at a place. Where it leaves a choice, the ways are tried
one after the other, and the first is taken for which all that follows fits too. Parts of a pattern
can be noted: what they stand for is known when the pattern has been found.
-/
namespace PciInventory

/-- What a text may look like at a place. -/
inductive Pattern where
  | nothing
  | character (isFit : Char → Bool)
  | both (first second : Pattern)
  /-- One of two patterns, the first if it can be. -/
  | either (first second : Pattern)
  /-- A pattern any number of times, as often as can be or as seldom. -/
  | repeated (greedy : Bool) (p : Pattern)
  /-- The character in front, if there is one, is not of a kind. -/
  | notBehind (isUnfit : Char → Bool)
  /-- A word begins or ends, or none does. -/
  | wordEdge (wanted : Bool)
  /-- A pattern whose stretch is noted. -/
  | noted (p : Pattern)

/-- A place in a text that is being read, and the stretches that have been noted, the last one
first. -/
structure Place where
  before : Option Char
  rest : Text
  index : Nat
  stretches : List (Nat × Nat)

namespace Place

def front (t : Text) : Place := ⟨none, t, 0, []⟩

/-- The place behind the next character, which is given. -/
def advance (p : Place) (c : Char) (rest : Text) : Place :=
  { p with before := some c, rest := rest, index := p.index + 1 }

/-- Whether a word begins or ends at a place. -/
def isWordEdge (p : Place) : Bool :=
  p.before.any Text.isWordCharacter != p.rest.head?.any Text.isWordCharacter

end Place

namespace Pattern

/-- Goes on with a step any number of times, for each of which there is fuel, and then with what
follows. A step that stays at its place is not repeated. -/
def repeatWith (greedy : Bool) (step : Place → (Place → Option Place) → Option Place)
    (next : Place → Option Place) : Nat → Place → Option Place
  | 0, p => next p
  | fuel + 1, p =>
    let again := fun _ : Unit => step p fun q =>
      if q.index = p.index then none else repeatWith greedy step next fuel q
    if greedy then (again ()).orElse fun _ => next p else (next p).orElse again

/-- Reads a pattern at a place and goes on behind it. -/
def read : Pattern → Place → (Place → Option Place) → Option Place
  | nothing, p, next => next p
  | character isFit, p, next =>
    match p.rest with
    | c :: rest => if isFit c then next (p.advance c rest) else none
    | [] => none
  | both a b, p, next => a.read p fun p => b.read p next
  | either a b, p, next => (a.read p next).orElse fun _ => b.read p next
  | repeated greedy a, p, next => repeatWith greedy a.read next p.rest.length p
  | notBehind isUnfit, p, next => if p.before.any isUnfit then none else next p
  | wordEdge wanted, p, next => if p.isWordEdge = wanted then next p else none
  | noted a, p, next =>
    a.read p fun q => next { q with stretches := (p.index, q.index) :: q.stretches }

/-- The stretches that are noted wherever a pattern is found from a place on; there is fuel for each
character. What has been found is not searched again. -/
def findFrom (a : Pattern) : Nat → Place → List (Nat × Nat)
  | 0, _ => []
  | fuel + 1, p =>
    match a.read { p with stretches := [] } some with
    | some q =>
      if p.index < q.index then q.stretches ++ a.findFrom fuel q
      else match p.rest with
        | c :: rest => q.stretches ++ a.findFrom fuel (p.advance c rest)
        | [] => q.stretches
    | none =>
      match p.rest with
      | c :: rest => a.findFrom fuel (p.advance c rest)
      | [] => []

/-- The stretches of a text that a pattern notes. -/
def find (a : Pattern) (t : Text) : List (Nat × Nat) := a.findFrom (t.length + 1) (Place.front t)

def inOrder (ps : List Pattern) : Pattern := ps.foldr both nothing

def oneOf (ps : List Pattern) : Pattern := ps.foldr either (character fun _ => false)

/-- The characters of a word, one behind the other. -/
def exactly (word : String) : Pattern := inOrder (word.toList.map fun c => character (· == c))

def optional (a : Pattern) : Pattern := either a nothing

def many (a : Pattern) : Pattern := repeated true a

def several (a : Pattern) : Pattern := both a (many a)

def times (n : Nat) (a : Pattern) : Pattern := inOrder (List.replicate n a)

def atMost : Nat → Pattern → Pattern
  | 0, _ => nothing
  | n + 1, a => optional (both a (atMost n a))

/-- A pattern once up to a number of times, as often as can be. -/
def upTo (n : Nat) (a : Pattern) : Pattern := both a (atMost (n - 1) a)

example : find (noted (several (character Char.isDigit))) "a12b3".toList = [(1, 3), (4, 5)] := by
  decide +kernel
example : find (both (exactly "<") (both (noted (repeated false (character fun _ => true)))
    (exactly ">"))) "<a><b>".toList = [(1, 2), (4, 5)] := by decide +kernel
example : find (both (wordEdge true) (noted (upTo 2 (character Char.isAlpha)))) "abc d".toList =
    [(0, 2), (4, 5)] := by decide +kernel

end Pattern

end PciInventory
