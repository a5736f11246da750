import PciInventory.Number.Binary64
import PciInventory.Text.CharacterName
import PciInventory.Text.Digit
import PciInventory.Text.Lines

/-!
# The tokens of parameters

Parameters are written with numbers, quoted texts and bytes, a few words, signs and brackets. This
file takes a text apart into those tokens. Where it finds anything else, or a number or a quoted
text that is not well written, the text has no tokens at all.
-/
namespace PciInventory.Parameter

inductive Bracket where
  | round
  | curly
  deriving DecidableEq

/-- What a number is, as far as the rules on parameters tell. -/
inductive Numeral where
  | whole (n : Nat)
  | real
  | imaginary
  deriving DecidableEq

inductive Token where
  | numeral (n : Numeral)
  | text
  | bytes
  /-- One of the three words for truth values and nothing, or three dots. -/
  | constant
  /-- The word in front of the brackets of an empty set. -/
  | setWord
  | sign
  | comma
  | colon
  | opening (b : Bracket)
  | closing (b : Bracket)
  | lineEnd
  /-- Blanks in front of the first other token of a line. -/
  | indent
  deriving DecidableEq

/-- Whether a character can be part of a word. -/
def isNameCharacter (c : Char) : Bool := c.isAlphanum || c == '_' || decide (0x80 ≤ c.toNat)

/-- Whether no word begins or goes on at the front of a text. -/
def endsWord (t : Text) : Bool := !t.head?.any isNameCharacter

/-- The digits and underscores at the front of a text, and the rest. -/
def spanDigits (t : Text) : Text × Text := t.span fun c => c.isDigit || c == '_'

/-- Whether a run is made of digits with at most single underscores between them. -/
def isRun (run : Text) : Bool := (run.splitOn '_').all (!·.isEmpty)

def hexValue? (c : Char) : Option Nat :=
  if c.isDigit then some (c.toNat - '0'.toNat)
  else if decide ('a' ≤ c.toLower) && decide (c.toLower ≤ 'f') then
    some (c.toLower.toNat - 'a'.toNat + 10)
  else none

/-- The most digits of a whole number in tens: the default limit of the runtime, which a user may
set to another one. -/
def digitLimit : Nat := 4300

/-- A whole number in tens. It begins with a zero only if there is nothing else in it. -/
def wholeOf? (run : Text) : Option Numeral :=
  let digits := run.filter (· != '_')
  if digits.all (· == '0') then some (.whole 0)
  else if digits.head? = some '0' || decide (digitLimit < digits.length) then none
  else some (.whole (Text.digitsToNat digits))

/-- The base that a letter behind a leading zero stands for. -/
def baseOf? (c : Char) : Option Nat :=
  if c.toLower = 'x' then some 16
  else if c.toLower = 'o' then some 8
  else if c.toLower = 'b' then some 2
  else none

/-- A whole number in a base, whose digits may begin with an underscore. -/
def inBase? (base : Nat) (t : Text) : Option (Numeral × Text) :=
  let isDigit := fun c => (hexValue? c).any fun n => decide (n < base)
  let (run, rest) := t.span fun c => isDigit c || c == '_'
  let run := if run.head? = some '_' then run.tail else run
  if isRun run && endsWord rest then
    let digits := run.filter (· != '_')
    some (.whole (digits.foldl (fun n c => base * n + (hexValue? c).getD 0) 0), rest)
  else none

/-- The digits behind a decimal point, if there is one, and the rest. -/
def fraction? : Text → Option Text × Text
  | '.' :: rest =>
    let (run, rest) := spanDigits rest
    (some run, rest)
  | t => (none, t)

/-- Whether there is an exponent, and the rest behind it; none, if an exponent has no digits. -/
def exponent? : Text → Option (Bool × Text)
  | c :: rest =>
    if c.toLower = 'e' then
      let (run, rest) := spanDigits (match rest with
        | '+' :: rest => rest
        | '-' :: rest => rest
        | rest => rest)
      if isRun run then some (true, rest) else none
    else some (false, c :: rest)
  | [] => some (false, [])

def decimal? (t : Text) : Option (Numeral × Text) :=
  let (whole, rest) := spanDigits t
  let (fraction, rest) := fraction? rest
  if (whole = [] || isRun whole) && fraction.all fun run => run = [] || isRun run then
    match exponent? rest with
    | none => none
    | some (hasExponent, rest) =>
      let numeral := if fraction.isSome || hasExponent then some .real else wholeOf? whole
      let (numeral, rest) : Option Numeral × Text := match rest with
        | c :: rest => if c.toLower = 'j' then (some .imaginary, rest) else (numeral, c :: rest)
        | [] => (numeral, [])
      if endsWord rest then numeral.map (·, rest) else none
  else none

/-- A number, at whose front there is a digit, or a point and a digit. -/
def numeral? : Text → Option (Numeral × Text)
  | '0' :: c :: rest =>
    match baseOf? c with
    | some base => inBase? base rest
    | none => decimal? ('0' :: c :: rest)
  | t => decimal? t

/-- What is quoted at the front of a text, up to the quote or the three quotes that end it, and the
rest. A backslash takes the character behind it along. -/
def body? (quote : Char) (tripled : Bool) : Text → Option (Text × Text)
  | [] => none
  | ['\\'] => none
  | '\\' :: c :: rest =>
    (body? quote tripled rest).map fun (body, rest) => ('\\' :: c :: body, rest)
  | c :: rest =>
    if c = quote && (!tripled || [quote, quote].isPrefixOf rest) then
      some ([], if tripled then rest.drop 2 else rest)
    else if c = '\n' && !tripled then none
    else (body? quote tripled rest).map fun (body, rest) => (c :: body, rest)

/-- Whether a text begins with some hexadecimal digits, whose number is within a limit. -/
def beginsInHex (count limit : Nat) (t : Text) : Bool :=
  match (t.take count).mapM hexValue? with
  | some ns => ns.length == count && decide (ns.foldl (fun n d => 16 * n + d) 0 ≤ limit)
  | none => false

/-- Whether a text begins with the name of a character in braces. -/
def beginsWithName : Text → Bool
  | c :: rest =>
    let (name, rest) := rest.span (· != '\x7d')
    c == '\x7b' && rest.head? == some '\x7d' && Text.isCharacterName name
  | [] => false

/-- Whether the backslashes in a quoted text are used as they must be; three of the letters behind
them mean nothing in bytes. -/
def escapesHold (inBytes : Bool) : Text → Bool
  | '\\' :: c :: rest =>
    (if c = 'x' then beginsInHex 2 0xFF rest
      else if inBytes then true
      else if c = 'u' then beginsInHex 4 0xFFFF rest
      else if c = 'U' then beginsInHex 8 0x10FFFF rest
      else if c = 'N' then beginsWithName rest
      else true) && escapesHold inBytes rest
  | _ :: rest => escapesHold inBytes rest
  | [] => true

/-- The ways to quote: a text or bytes, with or without a meaning for backslashes. -/
structure Quotation where
  inBytes : Bool
  raw : Bool

/-- The way to quote that a word in front of a quote asks for. -/
def Quotation.ofWord? (word : Text) : Option Quotation :=
  let word := word.map Char.toLower
  if word = [] || word = ['u'] then some ⟨false, false⟩
  else if word = ['r'] then some ⟨false, true⟩
  else if word = ['b'] then some ⟨true, false⟩
  else if word = ['b', 'r'] || word = ['r', 'b'] then some ⟨true, true⟩
  else none

/-- Whether a quoted text is well written. -/
def Quotation.admits (q : Quotation) (body : Text) : Bool :=
  (!q.inBytes || body.all fun c => decide (c.toNat < 0x80)) && (q.raw || escapesHold q.inBytes body)

/-- A quoted text or bytes behind a word, with a quote at the front. -/
def quoted? (word : Text) (quote : Char) (rest : Text) : Option (Token × Text) :=
  match Quotation.ofWord? word with
  | none => none
  | some q =>
    let tripled := [quote, quote].isPrefixOf rest
    match body? quote tripled (if tripled then rest.drop 2 else rest) with
    | some (body, rest) =>
      if q.admits body then some (if q.inBytes then .bytes else .text, rest) else none
    | none => none

/-- The letters that are read as an `s`: in letters of another width or hand, and raised or
lowered. -/
def formsOfS : List Nat :=
  [0x73, 0x17F, 0x2E2, 0x209B, 0xFF53, 0x1D42C, 0x1D460, 0x1D494, 0x1D4C8, 0x1D4FC, 0x1D530,
   0x1D564, 0x1D598, 0x1D5CC, 0x1D600, 0x1D634, 0x1D668, 0x1D69C]

def formsOfE : List Nat :=
  [0x65, 0x1D49, 0x2091, 0x212F, 0x2147, 0xFF45, 0x1D41E, 0x1D452, 0x1D486, 0x1D4EE, 0x1D522,
   0x1D556, 0x1D58A, 0x1D5BE, 0x1D5F2, 0x1D626, 0x1D65A, 0x1D68E]

def formsOfT : List Nat :=
  [0x74, 0x1D57, 0x209C, 0xFF54, 0x1D42D, 0x1D461, 0x1D495, 0x1D4C9, 0x1D4FD, 0x1D531, 0x1D565,
   0x1D599, 0x1D5CD, 0x1D601, 0x1D635, 0x1D669, 0x1D69D]

/-- Whether a word stands for sets. -/
def isSetWord : Text → Bool
  | [s, e, t] =>
    formsOfS.contains s.toNat && formsOfE.contains e.toNat && formsOfT.contains t.toNat
  | _ => false

def word? (word : Text) : Option Token :=
  if ["True", "False", "None"].any fun w => decide (w.toList = word) then some .constant
  else if isSetWord word then some .setWord
  else none

/-- The token at the front of a text, which does not begin with white space or at a line's end. -/
def token? : Text → Option (Token × Text)
  | '(' :: rest => some (.opening .round, rest)
  | ')' :: rest => some (.closing .round, rest)
  | '\x7b' :: rest => some (.opening .curly, rest)
  | '\x7d' :: rest => some (.closing .curly, rest)
  | ',' :: rest => some (.comma, rest)
  | ':' :: rest => some (.colon, rest)
  | '+' :: rest => some (.sign, rest)
  | '-' :: rest => some (.sign, rest)
  | '.' :: '.' :: '.' :: rest => some (.constant, rest)
  | t =>
    let (point, behind) := t.span (· == '.')
    if point.length ≤ 1 && behind.head?.any Char.isDigit then
      (numeral? t).map fun (n, rest) => (.numeral n, rest)
    else
      let (word, rest) := t.span isNameCharacter
      match rest with
      | quote :: behind =>
        if quote = '\'' || quote = '"' then quoted? word quote behind
        else (word? word).map (·, rest)
      | [] => (word? word).map (·, rest)

/-- What has been read of a line in front of its first token. -/
structure Margin where
  /-- Whether there were blanks in front of a backslash that ended a line and carried it on. -/
  kept : Bool
  /-- Whether there are blanks; those in front of a form feed do not count. -/
  blank : Bool
  deriving DecidableEq

def Margin.none : Margin := ⟨false, false⟩

/-- The tokens of a text, for each of whose characters there is fuel. Remarks last up to the end of
the line; a line that ends in a backslash goes on with the next. There is a margin up to the first
token of a line. -/
def tokensWith : Nat → Option Margin → Text → Option (List Token)
  | 0, _, _ => none
  | _ + 1, _, [] => some []
  | fuel + 1, margin, c :: rest =>
    if c = '\x0c' then tokensWith fuel (margin.map ({ · with blank := false })) rest
    else if c = ' ' || c = '\t' then tokensWith fuel (margin.map ({ · with blank := true })) rest
    else if c = '#' then tokensWith fuel none (rest.dropWhile (· != '\n'))
    else if c = '\n' then (tokensWith fuel (some .none) rest).map (.lineEnd :: ·)
    else if c = '\\' then
      match rest with
      | '\n' :: rest =>
        tokensWith fuel (margin.map fun m => { m with kept := m.kept || m.blank }) rest
      | _ => none
    else match token? (c :: rest) with
      | some (token, rest) =>
        let tokens := (tokensWith fuel none rest).map (token :: ·)
        if margin.any fun m => m.kept || m.blank then tokens.map (.indent :: ·) else tokens
      | none => none

/-- The tokens of a text, whose line ends may be of any kind and in which there is no NUL. -/
def tokens? (t : Text) : Option (List Token) :=
  if t.contains '\x00' then none else tokensWith (t.length + 1) (some .none) (Text.unifyLineEnds t)

example : tokens? "(-1_0, 'it\\'s', \x7bb\"\": .5e3\x7d)".toList =
    some [.opening .round, .sign, .numeral (.whole 10), .comma, .text, .comma, .opening .curly,
      .bytes, .colon, .numeral .real, .closing .curly, .closing .round] := by decide +kernel
example : ["01", "1_", "'a", "f''", "'\\x1'", "app", "1a"].map (tokens? ·.toList) =
    [none, none, none, none, none, none, none] := by decide +kernel
example : tokens? "# one\n \x0c\\\n set (\n 1)".toList =
    some [.lineEnd, .indent, .setWord, .opening .round, .lineEnd, .indent, .numeral (.whole 1),
      .closing .round] := by decide +kernel

end PciInventory.Parameter
