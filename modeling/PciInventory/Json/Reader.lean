import PciInventory.Json.Basic

/-!
# Reading JSON

The reader takes a value from the front of a text and leaves the rest. Every step that enters a
bracket or goes on to a next item spends one unit of an allowance; a text's own length is enough of
it, because each such step takes a character away.
-/
namespace PciInventory.Json

def isSpace (c : Char) : Bool := c == ' ' || c == '\n' || c == '\r' || c == '\t'

def skipSpace (t : Text) : Text := t.dropWhile isSpace

def hexValue? (c : Char) : Option Nat :=
  if '0' ≤ c ∧ c ≤ '9' then some (c.toNat - '0'.toNat)
  else if 'a' ≤ c ∧ c ≤ 'f' then some (c.toNat - 'a'.toNat + 10)
  else if 'A' ≤ c ∧ c ≤ 'F' then some (c.toNat - 'A'.toNat + 10)
  else none

/-- A UTF-16 unit of four hexadecimal digits. -/
def readUnit? : Text → Option (Nat × Text)
  | a :: b :: c :: d :: rest => do
    let a ← hexValue? a
    let b ← hexValue? b
    let c ← hexValue? c
    let d ← hexValue? d
    some (4096 * a + 256 * b + 16 * c + d, rest)
  | _ => none

/-- A character by its UTF-16 units, the first of which follows `\u`. -/
def readUnits? (t : Text) : Option (Char × Text) := do
  let (unit, rest) ← readUnit? t
  if 0xD800 ≤ unit ∧ unit < 0xDC00 then
    match rest with
    | '\\' :: 'u' :: rest =>
      let (low, rest) ← readUnit? rest
      if 0xDC00 ≤ low ∧ low < 0xE000 then
        some (Char.ofNat (0x10000 + 0x400 * (unit - 0xD800) + (low - 0xDC00)), rest)
      else none
    | _ => none
  else if 0xDC00 ≤ unit ∧ unit < 0xE000 then none
  else some (Char.ofNat unit, rest)

def simpleEscape? (c : Char) : Option Char :=
  if c = '"' ∨ c = '\\' ∨ c = '/' then some c
  else if c = 'n' then some '\n'
  else if c = 'r' then some '\r'
  else if c = 't' then some '\t'
  else if c = 'b' then some '\x08'
  else if c = 'f' then some '\x0c'
  else none

/-- The rest of a text behind its opening quote; what is read so far is held backwards. -/
def readText? : Nat → Text → Text → Option (Text × Text)
  | 0, _, _ => none
  | fuel + 1, done, t =>
    match t with
    | [] => none
    | '"' :: rest => some (done.reverse, rest)
    | '\\' :: 'u' :: rest =>
      match readUnits? rest with
      | some (c, rest) => readText? fuel (c :: done) rest
      | none => none
    | '\\' :: c :: rest =>
      match simpleEscape? c with
      | some c => readText? fuel (c :: done) rest
      | none => none
    | c :: rest => if c.toNat < 0x20 then none else readText? fuel (c :: done) rest

def spanDigits (t : Text) : Text × Text := t.span fun c => decide ('0' ≤ c) && decide (c ≤ '9')

/-- The whole part of a number: a zero, or digits that start with another one. -/
def readWhole? (t : Text) : Option (Text × Text) :=
  match spanDigits t with
  | ([], _) => none
  | ('0' :: _ :: _, _) => none
  | (digits, rest) => some (digits, rest)

/-- The part of a number behind a point, if there is a point. -/
def readDecimals? : Text → Option (Text × Text)
  | '.' :: rest =>
    match spanDigits rest with
    | ([], _) => none
    | (digits, rest) => some ('.' :: digits, rest)
  | t => some ([], t)

def spanSign : Text → Text × Text
  | '+' :: rest => (['+'], rest)
  | '-' :: rest => (['-'], rest)
  | t => ([], t)

def readExponent? : Text → Option (Text × Text)
  | [] => some ([], [])
  | c :: rest =>
    if c = 'e' ∨ c = 'E' then
      let (sign, rest) := spanSign rest
      match spanDigits rest with
      | ([], _) => none
      | (digits, rest) => some (c :: sign ++ digits, rest)
    else some ([], c :: rest)

def readUnsigned? (t : Text) : Option (Text × Text) := do
  let (whole, rest) ← readWhole? t
  let (decimals, rest) ← readDecimals? rest
  let (exponent, rest) ← readExponent? rest
  some (whole ++ decimals ++ exponent, rest)

def readNumber? : Text → Option (Text × Text)
  | '-' :: rest => (readUnsigned? rest).map fun (token, rest) => ('-' :: token, rest)
  | t => readUnsigned? t

mutual

def readValue? : Nat → Text → Option (Json × Text)
  | 0, _ => none
  | fuel + 1, t =>
    match t with
    | 'n' :: 'u' :: 'l' :: 'l' :: rest => some (.null, rest)
    | 't' :: 'r' :: 'u' :: 'e' :: rest => some (.bool true, rest)
    | 'f' :: 'a' :: 'l' :: 's' :: 'e' :: rest => some (.bool false, rest)
    | '"' :: rest => (readText? (rest.length + 1) [] rest).map fun (s, rest) => (.text s, rest)
    | '[' :: rest =>
      match skipSpace rest with
      | ']' :: rest => some (.array [], rest)
      | rest => (readItems? fuel [] rest).map fun (items, rest) => (.array items, rest)
    | '\x7b' :: rest =>
      match skipSpace rest with
      | '\x7d' :: rest => some (.object [], rest)
      | rest => (readMembers? fuel [] rest).map fun (members, rest) => (.object members, rest)
    | t => (readNumber? t).map fun (token, rest) => (.number token, rest)

/-- The items of an array up to its closing bracket; those read so far are held backwards. -/
def readItems? : Nat → List Json → Text → Option (List Json × Text)
  | 0, _, _ => none
  | fuel + 1, done, t =>
    match readValue? fuel t with
    | none => none
    | some (item, rest) =>
      match skipSpace rest with
      | ',' :: rest => readItems? fuel (item :: done) (skipSpace rest)
      | ']' :: rest => some ((item :: done).reverse, rest)
      | _ => none

/-- The members of an object up to its closing bracket; those read so far are held backwards. -/
def readMembers? : Nat → List (Text × Json) → Text → Option (List (Text × Json) × Text)
  | 0, _, _ => none
  | fuel + 1, done, t =>
    match t with
    | '"' :: rest =>
      match readText? (rest.length + 1) [] rest with
      | none => none
      | some (name, rest) =>
        match skipSpace rest with
        | ':' :: rest =>
          match readValue? fuel (skipSpace rest) with
          | none => none
          | some (value, rest) =>
            match skipSpace rest with
            | ',' :: rest => readMembers? fuel ((name, value) :: done) (skipSpace rest)
            | '\x7d' :: rest => some (((name, value) :: done).reverse, rest)
            | _ => none
        | _ => none
    | _ => none

end

def read? (t : Text) : Option Json :=
  match readValue? (t.length + 1) (skipSpace t) with
  | some (value, rest) => if skipSpace rest = [] then some value else none
  | none => none

end PciInventory.Json
