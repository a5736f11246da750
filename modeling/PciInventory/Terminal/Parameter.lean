import PciInventory.Terminal.Parameter.Token

/-!
# Parameters

The parameters of an action are numbers, texts, bytes, the few constants, and these put together in
rows, sets and maps. Here it is only settled which texts are parameters. Tokens are read one after
the other onto a stack of the brackets that are open: a bracket that closes becomes a value in the
one around it. A sign stands in front of a number only, two numbers are added only if the second is
imaginary and the first is not, and the members of a set and the keys of a map are values that
cannot change. Brackets must not be nested too deeply: a value is found by descending from rule to
rule of the notation, and the steps of that descent are limited.
-/
namespace PciInventory.Parameter

/-- What a value is, as far as the rules on parameters tell. -/
inductive Shape where
  | numeral (n : Numeral)
  | signed (n : Numeral)
  /-- A text or bytes outside brackets, which a neighbour may continue. -/
  | text
  | bytes
  /-- The word for sets, which is no value without empty brackets behind it. -/
  | setWord
  /-- Any other value; it can be a key if it cannot change. -/
  | other (fixed : Bool)
  deriving DecidableEq

/-- Whether a value can be a key or a member of a set. -/
def Shape.isFixed : Shape → Bool
  | .setWord => false
  | .other fixed => fixed
  | _ => true

/-- Whether an imaginary number can be added to a number; a whole one must not be too large. -/
def Numeral.takesImaginary : Numeral → Bool
  | .whole n => (Binary64.ofInt n).isFinite
  | .real => true
  | .imaginary => false

/-- Whether an imaginary number can be added to a value. -/
def Shape.takesImaginary : Shape → Bool
  | .numeral n => n.takesImaginary
  | .signed n => n.takesImaginary
  | _ => false

/-- How far a value has been read. -/
inductive Progress where
  | nothing
  /-- A sign, to which a number belongs. -/
  | sign
  | value (s : Shape)
  /-- A number and a sign, to which an imaginary number belongs. -/
  | sum
  deriving DecidableEq

/-- A value continued by another, if it can be. -/
def Progress.add : Progress → Shape → Option Progress
  | .nothing, s => some (.value s)
  | .sign, .numeral n => some (.value (.signed n))
  | .value .text, .text => some (.value .text)
  | .value .bytes, .bytes => some (.value .bytes)
  | .sum, .numeral .imaginary => some (.value (.other true))
  | _, _ => none

/-- A value continued by a sign, if it can be. -/
def Progress.addSign : Progress → Option Progress
  | .nothing => some .sign
  | .value s => if s.takesImaginary then some .sum else none
  | _ => none

/-- What members are put in: brackets of their own, the brackets behind the word for sets, or
nothing but the ends of the text. -/
inductive Enclosure where
  | ends
  | brackets (b : Bracket)
  | setBrackets
  deriving DecidableEq

/-- The steps from the value that is a group to its member behind some commas. -/
def Enclosure.steps : Enclosure → Nat → Nat
  | .ends, 0 => 0
  | .ends, _ => 2
  | .brackets .round, 0 => 28
  | .brackets .round, 1 => 30
  | .brackets .round, _ => 31
  | .brackets .curly, 0 => 29
  | .brackets .curly, _ => 30
  | .setBrackets, _ => 24

/-- What has been read of a group of members. -/
structure Group where
  enclosure : Enclosure
  /-- The steps down to the group. -/
  depth : Nat
  /-- How many commas have been read. -/
  commas : Nat
  /-- Whether a colon has been read, so that this is a map. -/
  mapped : Bool
  /-- Whether the key of the present member has been read. -/
  keyed : Bool
  /-- Whether every complete member is a value that cannot change. -/
  fixed : Bool
  current : Progress
  deriving DecidableEq

def Group.start (e : Enclosure) (depth : Nat) : Group := ⟨e, depth, 0, false, false, true, .nothing⟩

/-- The steps down to the present member, one more behind a sign. -/
def Group.memberDepth (g : Group) : Nat :=
  g.depth + g.enclosure.steps g.commas + if g.current = .sign then 1 else 0

/-- The steps that may be open at a time. The limit is a constant of the parser that parameters are
handed to; this is its value in release 3.11 of the runtime, whose rules this file follows. -/
def stepLimit : Nat := 6000

/-- The steps from a value down to a number or a word. -/
def leafSteps : Nat := 22

/-- The steps from a value down to a text or bytes, which neighbours may continue. -/
def quotedSteps : Nat := 24

/-- Whether there are some steps left where the present member stands. -/
def Group.hasLeft (g : Group) (steps : Nat) : Bool := decide (g.memberDepth + steps ≤ stepLimit)

/-- The group after a comma. The members of a set cannot change, nor can keys; in a map each member
has a key. -/
def Group.comma (g : Group) : Option Group :=
  match g.current with
  | .value s =>
    if g.mapped != g.keyed || s = .setWord then none
    else some { g with
      commas := g.commas + 1, keyed := false, fixed := g.fixed && (g.mapped || s.isFixed),
      current := .nothing }
  | _ => none

/-- The group after a colon, in front of which there is a key. -/
def Group.colon (g : Group) : Option Group :=
  match g.enclosure, g.current with
  | .brackets .curly, .value s =>
    if g.keyed || (decide (0 < g.commas) && !g.mapped) || !s.isFixed then none
    else some { g with mapped := true, keyed := true, current := .nothing }
  | _, _ => none

/-- The group after its last member, which need not end in a comma. -/
def Group.finish (g : Group) : Option Group :=
  match g.current with
  | .nothing => if g.keyed then none else some g
  | _ => g.comma

/-- The value that a group comes to: one value without a comma is that value. -/
def Group.close (g : Group) : Option Shape :=
  match g.enclosure, g.commas, g.current with
  | .setBrackets, 0, .nothing => some (.other false)
  | .setBrackets, _, _ => none
  | .brackets .curly, _, _ => g.finish.bind fun g => if g.fixed then some (.other false) else none
  | _, 0, .value .text => some (.other true)
  | _, 0, .value .bytes => some (.other true)
  | _, 0, .value s => some s
  | _, _, _ => g.finish.map fun g => .other g.fixed

/-- What is open, the innermost group first; the last one is the whole text. Behind the line on
which that ended there is nothing but the ends of further lines. -/
structure Stack where
  groups : List Group
  ended : Bool
  deriving DecidableEq

def Stack.start : Stack := ⟨[.start .ends 3], false⟩

/-- The brackets that may be open at a time, a constant of the same parser. -/
def depthLimit : Nat := 200

def Stack.add (s : Stack) (shape : Shape) : Option Stack :=
  match s.groups with
  | g :: rest =>
    (g.current.add shape).map fun p => { s with groups := { g with current := p } :: rest }
  | [] => none

/-- The stack after a value without members has been read, to which there are some steps. -/
def Stack.addLeaf (s : Stack) (steps : Nat) (shape : Shape) : Option Stack :=
  if s.groups.head?.all (·.hasLeft steps) then s.add shape else none

/-- The stack after a bracket has been opened. Round brackets behind the word for sets take its
place. -/
def Stack.enter (s : Stack) (b : Bracket) : Option Stack :=
  match s.groups with
  | g :: rest =>
    if depthLimit < s.groups.length then none
    else if g.current = .value .setWord && b = .round then
      some { s with
        groups := .start .setBrackets g.memberDepth :: { g with current := .nothing } :: rest }
    else some { s with groups := .start (.brackets b) g.memberDepth :: g :: rest }
  | [] => none

/-- Whether a bracket closes a group. -/
def Enclosure.isClosedBy : Enclosure → Bracket → Bool
  | .ends, _ => false
  | .brackets a, b => decide (a = b)
  | .setBrackets, b => decide (b = .round)

/-- The stack after a bracket has been closed. Where no member is in front of it, one has been
looked for. -/
def Stack.leave (s : Stack) (b : Bracket) : Option Stack :=
  match s.groups with
  | g :: rest =>
    if g.enclosure.isClosedBy b && (g.current != .nothing || g.hasLeft leafSteps) then
      g.close.bind (⟨rest, false⟩ : Stack).add
    else none
  | [] => none

def Stack.read (s : Stack) (t : Token) : Option Stack :=
  if s.ended then if t = .lineEnd then some s else none
  else match t, s.groups with
    | .numeral n, _ => s.addLeaf leafSteps (.numeral n)
    | .text, _ => s.addLeaf quotedSteps .text
    | .bytes, _ => s.addLeaf quotedSteps .bytes
    | .constant, _ => s.addLeaf leafSteps (.other true)
    | .setWord, _ => s.addLeaf leafSteps .setWord
    | .sign, g :: rest =>
      g.current.addSign.map fun p => { s with groups := { g with current := p } :: rest }
    | .comma, g :: rest => g.comma.map fun g => { s with groups := g :: rest }
    | .colon, g :: rest => g.colon.map fun g => { s with groups := g :: rest }
    | .opening b, _ => s.enter b
    | .closing b, _ => s.leave b
    | .lineEnd, [whole] => some { s with ended := whole != .start .ends whole.depth }
    | .lineEnd, _ => some s
    | .indent, [_] => none
    | .indent, _ => some s
    | _, [] => none

def Stack.readAll (s : Stack) : List Token → Option Stack
  | [] => some s
  | t :: rest => (s.read t).bind (·.readAll rest)

/-- The value that the whole text comes to, if there is one. -/
def Stack.whole? (s : Stack) : Option Shape :=
  match s.groups with
  | [whole] => if whole.commas = 0 && whole.current = .nothing then none else whole.close
  | _ => none

def areWritten (t : Text) : Bool :=
  match ((tokens? t).bind Stack.start.readAll).bind Stack.whole? with
  | some shape => shape != .setWord
  | none => false

example : ["()", "(1, 'a' \"b\",)", "-1+2j", "\x7b(1,): \x7b2\x7d, \x7d", "(set)(), 1 # one\n"].map
    (areWritten ·.toList) = [true, true, true, true, true] := by decide +kernel
example : ["", "a", "f(1)", "(", "1 2", "1+2", "--1", "\x7b\x7b\x7d\x7d", "(,)", "1\n2", "set",
    "set(1)", "set(1,)", "# one\n 1"].any (areWritten ·.toList) = false := by decide +kernel

end PciInventory.Parameter
