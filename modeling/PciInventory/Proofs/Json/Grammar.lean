import PciInventory.Proofs.Json.Printing

/-!
# The JSON format

The grammar of JSON as a relation between a text and the value that it writes, apart from every
printer and reader. What is printed is in the grammar if its numbers are, in every form whose
spacing is spacing.

A number's token is its own value here, so nothing is said of what a number is worth. A surrogate
without its partner writes no character, so a text that holds one writes no value.
-/
namespace PciInventory.Json

/-- Spacing between tokens. -/
def IsSpacing (t : Text) : Prop := ∀ c ∈ t, c = ' ' ∨ c = '\n' ∨ c = '\r' ∨ c = '\t'

instance (t : Text) : Decidable (IsSpacing t) := List.decidableBAll _ t

def IsDigits (t : Text) : Prop := t ≠ [] ∧ ∀ c ∈ t, '0' ≤ c ∧ c ≤ '9'

theorem IsDigits.exists_cons {t : Text} (h : IsDigits t) :
    ∃ c rest, t = c :: rest ∧ ('0' ≤ c ∧ c ≤ '9') := by
  obtain ⟨some, each⟩ := h
  obtain ⟨c, rest, rfl⟩ := List.exists_cons_of_ne_nil some
  exact ⟨c, rest, rfl, each c List.mem_cons_self⟩

/-- Digits that start with a zero only if there is no other. -/
structure IsWhole (t : Text) : Prop where
  digits : IsDigits t
  zero : t.head? = some '0' → t = ['0']

/-- Nothing, or a point and digits. -/
inductive IsDecimals : Text → Prop where
  | none : IsDecimals []
  | some {digits : Text} (h : IsDigits digits) : IsDecimals ('.' :: digits)

/-- Nothing, or a mark, perhaps a sign, and digits. -/
inductive IsExponent : Text → Prop where
  | none : IsExponent []
  | some {mark : Char} {sign digits : Text} (marked : mark = 'e' ∨ mark = 'E')
      (signed : sign = [] ∨ sign = ['+'] ∨ sign = ['-']) (h : IsDigits digits) :
      IsExponent (mark :: (sign ++ digits))

inductive IsUnsigned : Text → Prop where
  | intro {whole decimals exponent : Text} (hw : IsWhole whole) (hd : IsDecimals decimals)
      (he : IsExponent exponent) : IsUnsigned (whole ++ (decimals ++ exponent))

inductive IsNumber : Text → Prop where
  | plain {t : Text} (h : IsUnsigned t) : IsNumber t
  | negative {t : Text} (h : IsUnsigned t) : IsNumber ('-' :: t)

/-- A hexadecimal digit of either case. -/
def IsHexDigit (c : Char) (n : Nat) : Prop :=
  n < 16 ∧ (c = Nat.digitChar n ∨ c = (Nat.digitChar n).toUpper)

/-- Four hexadecimal digits and the UTF-16 unit that they write. -/
inductive WritesUnit : Text → Nat → Prop where
  | intro {a b c d : Char} {i j k l : Nat} (ha : IsHexDigit a i) (hb : IsHexDigit b j)
      (hc : IsHexDigit c k) (hd : IsHexDigit d l) :
      WritesUnit [a, b, c, d] (4096 * i + 256 * j + 16 * k + l)

/-- What stands behind a backslash for a character, where one character does. -/
def shortEscapes : List (Char × Char) :=
  [('"', '"'), ('\\', '\\'), ('/', '/'), ('b', '\x08'), ('f', '\x0c'), ('n', '\n'), ('r', '\r'),
    ('t', '\t')]

/-- The ways to write one character between the quotes of a text. -/
inductive WritesChar : Text → Char → Prop where
  | plain {c : Char} (visible : 0x20 ≤ c.toNat) (quote : c ≠ '"') (backslash : c ≠ '\\') :
      WritesChar [c] c
  | short {mark c : Char} (h : (mark, c) ∈ shortEscapes) : WritesChar ['\\', mark] c
  | unit {t : Text} {c : Char} (h : WritesUnit t c.toNat) : WritesChar ('\\' :: 'u' :: t) c
  | pair {t t' : Text} {high low : Nat} {c : Char} (h : WritesUnit t (0xD800 + high))
      (h' : WritesUnit t' (0xDC00 + low)) (small : high < 0x400) (small' : low < 0x400)
      (value : c.toNat = 0x10000 + 0x400 * high + low) :
      WritesChar ('\\' :: 'u' :: (t ++ '\\' :: 'u' :: t')) c

/-- The ways to write a text between its quotes. -/
inductive WritesChars : Text → Text → Prop where
  | nil : WritesChars [] []
  | cons {w t : Text} {c : Char} {s : Text} (here : WritesChar w c) (later : WritesChars t s) :
      WritesChars (w ++ t) (c :: s)

mutual

/-- A text writes a value, without spacing around it. -/
inductive WritesBare : Text → Json → Prop where
  | null : WritesBare "null".toList .null
  | true : WritesBare "true".toList (.bool .true)
  | false : WritesBare "false".toList (.bool .false)
  | number {token : Text} (h : IsNumber token) : WritesBare token (.number token)
  | text {t content : Text} (h : WritesChars t content) :
      WritesBare ('"' :: (t ++ ['"'])) (.text content)
  | emptyArray {space : Text} (h : IsSpacing space) :
      WritesBare ('[' :: (space ++ [']'])) (.array [])
  | array {t : Text} {items : List Json} (h : WritesItems t items) :
      WritesBare ('[' :: (t ++ [']'])) (.array items)
  | emptyObject {space : Text} (h : IsSpacing space) :
      WritesBare ('\x7b' :: (space ++ ['\x7d'])) (.object [])
  | object {t : Text} {members : List (Text × Json)} (h : WritesMembers t members) :
      WritesBare ('\x7b' :: (t ++ ['\x7d'])) (.object members)

/-- A text writes a value, with spacing around it. -/
inductive Writes : Text → Json → Prop where
  | intro {before t after : Text} {j : Json} (hb : IsSpacing before) (h : WritesBare t j)
      (ha : IsSpacing after) : Writes (before ++ (t ++ after)) j

/-- A text writes values, one or more, with a comma between two of them. -/
inductive WritesItems : Text → List Json → Prop where
  | one {t : Text} {item : Json} (h : Writes t item) : WritesItems t [item]
  | more {t rest : Text} {item : Json} {items : List Json} (h : Writes t item)
      (later : WritesItems rest items) : WritesItems (t ++ ',' :: rest) (item :: items)

/-- A text writes a member of an object. -/
inductive WritesMember : Text → Text × Json → Prop where
  | intro {before quoted between t name : Text} {value : Json} (hb : IsSpacing before)
      (hq : WritesChars quoted name) (hs : IsSpacing between) (h : Writes t value) :
      WritesMember (before ++ '"' :: (quoted ++ '"' :: (between ++ ':' :: t))) (name, value)

/-- A text writes members, one or more, with a comma between two of them. -/
inductive WritesMembers : Text → List (Text × Json) → Prop where
  | one {t : Text} {member : Text × Json} (h : WritesMember t member) : WritesMembers t [member]
  | more {t rest : Text} {member : Text × Json} {members : List (Text × Json)}
      (h : WritesMember t member) (later : WritesMembers rest members) :
      WritesMembers (t ++ ',' :: rest) (member :: members)

end

theorem isSpacing_nil : IsSpacing [] := by simp [IsSpacing]

theorem isHexDigit_digitChar {n : Nat} (h : n < 16) : IsHexDigit (Nat.digitChar n) n :=
  ⟨h, .inl rfl⟩

theorem writesUnit_hexadecimal {n : Nat} (small : n < 16 ^ 4) :
    WritesUnit (Text.Quoted.hexadecimal 4 n) n := by
  have digit (k : Nat) : IsHexDigit (Nat.digitChar (k % 16)) (k % 16) :=
    isHexDigit_digitChar (Nat.mod_lt k (by decide))
  have value : 4096 * (n / 16 / 16 / 16 % 16) + 256 * (n / 16 / 16 % 16) + 16 * (n / 16 % 16) +
      n % 16 = n := by omega
  rw [Text.hexadecimal_eq (by decide) small]
  have written := WritesUnit.intro (digit (n / 16 / 16 / 16)) (digit (n / 16 / 16)) (digit (n / 16))
    (digit n)
  rwa [value] at written

theorem codePoint_cases (c : Char) :
    c.toNat < 0xD800 ∨ 0xE000 ≤ c.toNat ∧ c.toNat < 0x110000 := by
  have valid := c.valid
  simp only [UInt32.isValidChar, Nat.isValidChar] at valid
  change c.val.toNat < _ ∨ _ ≤ c.val.toNat ∧ c.val.toNat < _
  omega

/-- A character is written by its UTF-16 units, whatever it is. -/
theorem writesChar_unitEscapes (c : Char) : WritesChar (unitEscapes c.toNat) c := by
  unfold unitEscapes
  split_ifs with small
  · exact .unit (writesUnit_hexadecimal (by omega))
  · have code := codePoint_cases c
    have both (high low : Nat) : unitEscape high ++ unitEscape low =
        '\\' :: 'u' :: (Text.Quoted.hexadecimal 4 high ++
          '\\' :: 'u' :: Text.Quoted.hexadecimal 4 low) := rfl
    rw [both]
    exact .pair (writesUnit_hexadecimal (by omega)) (writesUnit_hexadecimal (by omega))
      (by omega) (by omega) (by omega)

/-- Every character is printed in one of the ways that the grammar has for it. -/
theorem writesChar_escaped (c : Char) : WritesChar (escaped c) c := by
  have short (mark c : Char) (h : (mark, c) ∈ shortEscapes) : WritesChar ['\\', mark] c := .short h
  unfold escaped
  split_ifs with quote backslash feed ret tab back form visible
  · exact quote ▸ short '"' '"' (by decide)
  · exact backslash ▸ short '\\' '\\' (by decide)
  · exact feed ▸ short 'n' '\n' (by decide)
  · exact ret ▸ short 'r' '\r' (by decide)
  · exact tab ▸ short 't' '\t' (by decide)
  · exact back ▸ short 'b' '\x08' (by decide)
  · exact form ▸ short 'f' '\x0c' (by decide)
  · exact .plain visible.1 quote backslash
  · exact writesChar_unitEscapes c

theorem writesChars_escaped (t : Text) : WritesChars (t.flatMap escaped) t := by
  induction t with
  | nil => exact .nil
  | cons c rest ih => exact .cons (writesChar_escaped c) ih

structure Spacing.IsSpacing (s : Spacing) : Prop where
  afterOpening : ∀ depth, Json.IsSpacing (s.afterOpening depth)
  afterComma : ∀ depth, Json.IsSpacing (s.afterComma depth)
  beforeClosing : ∀ depth, Json.IsSpacing (s.beforeClosing depth)

theorem Spacing.isSpacing_indented : Spacing.indented.IsSpacing := by
  have line (depth : Nat) : Json.IsSpacing (Spacing.newLine depth) := by
    refine List.forall_mem_cons.2 ⟨by decide, fun c hc => .inl (List.eq_of_mem_replicate hc)⟩
  exact ⟨line, line, line⟩

section Printed
variable {before t after : Text} {j : Json}

theorem WritesBare.between (h : WritesBare t j) (hb : IsSpacing before) (ha : IsSpacing after) :
    Writes (before ++ t ++ after) j := by
  rw [List.append_assoc]
  exact .intro hb h ha

theorem WritesBare.member (h : WritesBare t j) (name : Text) (hb : IsSpacing before)
    (ha : IsSpacing after) :
    WritesMember (before ++ printText name ++ [':', ' '] ++ t ++ after) (name, j) := by
  have blank : IsSpacing [' '] := by decide
  simpa [printText] using
    WritesMember.intro hb (writesChars_escaped name) isSpacing_nil (h.between blank ha)

end Printed

mutual

/-- What a value is printed as writes the value if its numbers are numbers. -/
theorem writesBare_print {s : Spacing} (hs : s.IsSpacing) :
    ∀ (depth : Nat) (j : Json), j.EachNumber IsNumber → WritesBare (print s depth j) j
  | _, .null, _ => by simpa only [print] using .null
  | _, .bool true, _ => by simpa only [print] using .true
  | _, .bool false, _ => by simpa only [print] using .false
  | _, .number _, .number standard => by simpa only [print] using .number standard
  | _, .text content, _ => by simpa only [print] using .text (writesChars_escaped content)
  | _, .array [], _ => by simpa only [print] using .emptyArray isSpacing_nil
  | depth, .array (item :: items), .array each => by
    have first := writesBare_print hs (depth + 1) item (each item List.mem_cons_self)
    have written := writesItems_print hs depth
      (fun _ ha => first.between (hs.afterOpening (depth + 1)) ha) items fun i hi =>
        each i (List.mem_cons_of_mem item hi)
    simpa [print] using WritesBare.array written
  | _, .object [], _ => by simpa only [print] using .emptyObject isSpacing_nil
  | depth, .object ((name, value) :: members), .object each => by
    have first := writesBare_print hs (depth + 1) value (each (name, value) List.mem_cons_self)
    have written := writesMembers_print hs depth
      (fun _ ha => first.member name (hs.afterOpening (depth + 1)) ha) members fun m hm =>
        each m (List.mem_cons_of_mem _ hm)
    simpa [print] using WritesBare.object written

/-- The items of an array, the first of which is written in front of any spacing. -/
theorem writesItems_print {s : Spacing} (hs : s.IsSpacing) :
    ∀ (depth : Nat) {t : Text} {item : Json},
      (∀ after, IsSpacing after → Writes (t ++ after) item) → ∀ items : List Json,
      (∀ i ∈ items, i.EachNumber IsNumber) →
      WritesItems (t ++ printItems s (depth + 1) items ++ s.beforeClosing depth) (item :: items)
  | depth, t, item, first, [], _ => by
    simpa [printItems] using WritesItems.one (first _ (hs.beforeClosing depth))
  | depth, t, item, first, next :: items, each => by
    have second := writesBare_print hs (depth + 1) next (each next List.mem_cons_self)
    have later := writesItems_print hs depth
      (fun _ ha => second.between (hs.afterComma (depth + 1)) ha) items fun i hi =>
        each i (List.mem_cons_of_mem next hi)
    have here := first [] isSpacing_nil
    rw [List.append_nil] at here
    simpa [printItems] using WritesItems.more here later

/-- The members of an object, the first of which is written in front of any spacing. -/
theorem writesMembers_print {s : Spacing} (hs : s.IsSpacing) :
    ∀ (depth : Nat) {t : Text} {member : Text × Json},
      (∀ after, IsSpacing after → WritesMember (t ++ after) member) →
      ∀ members : List (Text × Json), (∀ m ∈ members, m.2.EachNumber IsNumber) →
      WritesMembers (t ++ printMembers s (depth + 1) members ++ s.beforeClosing depth)
        (member :: members)
  | depth, t, member, first, [], _ => by
    simpa [printMembers] using WritesMembers.one (first _ (hs.beforeClosing depth))
  | depth, t, member, first, (name, value) :: members, each => by
    have second := writesBare_print hs (depth + 1) value (each (name, value) List.mem_cons_self)
    have later := writesMembers_print hs depth
      (fun _ ha => second.member name (hs.afterComma (depth + 1)) ha) members fun m hm =>
        each m (List.mem_cons_of_mem _ hm)
    have here := first [] isSpacing_nil
    rw [List.append_nil] at here
    simpa [printMembers] using WritesMembers.more here later

end

theorem writes_indented {j : Json} (h : j.EachNumber IsNumber) : Writes j.indented j := by
  simpa [indented] using
    (writesBare_print Spacing.isSpacing_indented 0 j h).between isSpacing_nil isSpacing_nil

end PciInventory.Json
