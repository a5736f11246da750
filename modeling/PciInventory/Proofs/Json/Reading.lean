import Mathlib.Data.List.TakeDrop
import PciInventory.Json.Reader
import PciInventory.Proofs.Json.Grammar

/-!
# Reading what is in the JSON format

A text that writes a value by the grammar is read as that value, whatever the spacing, the escapes
and the form of its numbers. So a text writes at most one value, and a value that is printed is read
back.

Nothing is said of texts that are not in the grammar.
-/
namespace PciInventory.Json

theorem isSpace_iff {c : Char} :
    isSpace c = true ↔ c = ' ' ∨ c = '\n' ∨ c = '\r' ∨ c = '\t' := by
  simp [isSpace, or_assoc]

theorem skipSpace_append {space : Text} (h : IsSpacing space) (t : Text) :
    skipSpace (space ++ t) = skipSpace t :=
  List.dropWhile_append_of_pos fun c hc => isSpace_iff.2 (h c hc)

theorem skipSpace_eq_nil {space : Text} (h : IsSpacing space) : skipSpace space = [] := by
  simpa [skipSpace] using skipSpace_append h []

theorem skipSpace_cons {c : Char} (h : isSpace c = false) (t : Text) :
    skipSpace (c :: t) = c :: t :=
  List.dropWhile_cons_of_neg (by simp [h])

/-- The characters that may stand behind a value: spacing, a comma or a closing bracket. -/
def closers : List Char := [' ', '\n', '\r', '\t', ',', ']', '\x7d']

/-- What may stand behind a value: nothing, or one of these characters and what follows it. -/
def Ends (t : Text) : Prop := ∀ c, t.head? = some c → c ∈ closers

theorem ends_nil : Ends [] := nofun

theorem ends_cons {c : Char} {t : Text} (h : c ∈ closers) : Ends (c :: t) := by
  rintro d ⟨⟩
  exact h

/-- Spacing may stand behind a value if what follows it may. -/
theorem Ends.after_spacing {space t : Text} (h : IsSpacing space) (ht : Ends t) :
    Ends (space ++ t) := by
  cases space with
  | nil => exact ht
  | cons c rest =>
    refine ends_cons ?_
    rcases h c List.mem_cons_self with rfl | rfl | rfl | rfl <;> decide

/-- A comma or a closing bracket ends the spacing behind a value. -/
theorem ends_closer {space r : Text} {c : Char} (h : IsSpacing space)
    (hc : c = ',' ∨ c = ']' ∨ c = '\x7d') :
    Ends (space ++ c :: r) ∧ skipSpace (space ++ c :: r) = c :: r := by
  rw [skipSpace_append h]
  rcases hc with rfl | rfl | rfl <;>
    exact ⟨.after_spacing h (ends_cons (by decide)), skipSpace_cons (by decide) r⟩

/-- A text that does not start with a digit. -/
def NoDigit (t : Text) : Prop := ∀ c, t.head? = some c → ¬ ('0' ≤ c ∧ c ≤ '9')

theorem Ends.noDigit {t : Text} (h : Ends t) : NoDigit t := by
  intro c first
  have others : closers.all (fun c => decide ¬ ('0' ≤ c ∧ c ≤ '9')) = true := by decide
  exact of_decide_eq_true (List.all_eq_true.1 others c (h c first))

theorem spanDigits_append {digits rest : Text} (h : ∀ c ∈ digits, '0' ≤ c ∧ c ≤ '9')
    (stop : NoDigit rest) : spanDigits (digits ++ rest) = (digits, rest) := by
  have each (c : Char) (hc : c ∈ digits) : (decide ('0' ≤ c) && decide (c ≤ '9')) = true := by
    simpa using h c hc
  have none : rest.takeWhile (fun c => decide ('0' ≤ c) && decide (c ≤ '9')) = [] := by
    cases rest with
    | nil => rfl
    | cons c rest =>
      refine List.takeWhile_cons_of_neg ?_
      simpa using stop c rfl
  have all : rest.dropWhile (fun c => decide ('0' ≤ c) && decide (c ≤ '9')) = rest := by
    cases rest with
    | nil => rfl
    | cons c rest =>
      refine List.dropWhile_cons_of_neg ?_
      simpa using stop c rfl
  rw [spanDigits, List.span_eq_takeWhile_dropWhile, List.takeWhile_append_of_pos each,
    List.dropWhile_append_of_pos each, none, all, List.append_nil]

theorem ne_of_digit {c d : Char} (h : '0' ≤ c ∧ c ≤ '9') (hd : ¬ ('0' ≤ d ∧ d ≤ '9')) : c ≠ d := by
  rintro rfl
  exact hd h

section Number
variable {whole decimals exponent rest : Text}

theorem readWhole?_append (h : IsWhole whole) (stop : NoDigit rest) :
    readWhole? (whole ++ rest) = some (whole, rest) := by
  rw [readWhole?, spanDigits_append h.digits.2 stop]
  obtain ⟨c, digits, rfl, -⟩ := h.digits.exists_cons
  by_cases zero : c = '0'
  · subst zero
    rw [h.zero rfl]
    rfl
  · simp [zero]

theorem readDecimals?_append (h : IsDecimals decimals) (stop : NoDigit rest)
    (noPoint : rest.head? ≠ some '.') :
    readDecimals? (decimals ++ rest) = some (decimals, rest) := by
  cases h with
  | none =>
    unfold readDecimals?
    split
    · rename_i rest point
      exact absurd (congrArg List.head? point) noPoint
    · rfl
  | some digits =>
    rw [List.cons_append, readDecimals?, spanDigits_append digits.2 stop]
    obtain ⟨c, digits, rfl, -⟩ := digits.exists_cons
    rfl

theorem readExponent?_append (h : IsExponent exponent) (ends : Ends rest) :
    readExponent? (exponent ++ rest) = some (exponent, rest) := by
  cases h with
  | none =>
    cases rest with
    | nil => rfl
    | cons c rest =>
      have others : closers.all (fun c => decide ¬ (c = 'e' ∨ c = 'E')) = true := by decide
      have other : ¬ (c = 'e' ∨ c = 'E') :=
        of_decide_eq_true (List.all_eq_true.1 others c (ends c rfl))
      simp [readExponent?, other]
  | some marked signed digits =>
    have read := spanDigits_append digits.2 ends.noDigit
    obtain ⟨c, digits, rfl, digit⟩ := digits.exists_cons
    have minus : c ≠ '-' := ne_of_digit digit (by decide)
    have plus : c ≠ '+' := ne_of_digit digit (by decide)
    rw [List.cons_append] at read
    rcases signed with rfl | rfl | rfl <;> simp [readExponent?, marked, spanSign, minus, plus, read]

theorem noDigit_exponent_append (h : IsExponent exponent) (ends : Ends rest) :
    NoDigit (exponent ++ rest) ∧ (exponent ++ rest).head? ≠ some '.' := by
  cases h with
  | none =>
    refine ⟨ends.noDigit, fun point => ?_⟩
    exact absurd (ends '.' point) (by decide)
  | some marked signed digits =>
    rcases marked with rfl | rfl
    · exact ⟨by rintro c ⟨⟩; decide, by simp⟩
    · exact ⟨by rintro c ⟨⟩; decide, by simp⟩

theorem noDigit_decimals_append (h : IsDecimals decimals) (stop : NoDigit rest) :
    NoDigit (decimals ++ rest) := by
  cases h with
  | none => exact stop
  | some digits =>
    rintro c ⟨⟩
    decide

theorem readUnsigned?_append {t : Text} (h : IsUnsigned t) (ends : Ends rest) :
    readUnsigned? (t ++ rest) = some (t, rest) := by
  cases h with
  | intro hw hd he =>
    obtain ⟨stop, noPoint⟩ := noDigit_exponent_append he ends
    simp only [readUnsigned?, List.append_assoc,
      readWhole?_append hw (noDigit_decimals_append hd stop),
      readDecimals?_append hd stop noPoint, readExponent?_append he ends, Option.bind_eq_bind,
      Option.bind_some]

theorem IsUnsigned.exists_cons {t : Text} (h : IsUnsigned t) :
    ∃ c rest, t = c :: rest ∧ ('0' ≤ c ∧ c ≤ '9') := by
  cases h with
  | intro hw _ _ =>
    obtain ⟨c, digits, rfl, digit⟩ := hw.digits.exists_cons
    exact ⟨c, _, rfl, digit⟩

theorem readNumber?_append {token : Text} (h : IsNumber token) (ends : Ends rest) :
    readNumber? (token ++ rest) = some (token, rest) := by
  cases h with
  | plain h =>
    have read := readUnsigned?_append h ends
    obtain ⟨c, r, rfl, digit⟩ := h.exists_cons
    have minus : c ≠ '-' := ne_of_digit digit (by decide)
    simpa [readNumber?, minus] using read
  | negative h => simp [readNumber?, readUnsigned?_append h ends]

end Number

theorem hexValue?_of_isHexDigit {c : Char} {n : Nat} (h : IsHexDigit c n) :
    hexValue? c = some n := by
  have all : ∀ n < 16, hexValue? (Nat.digitChar n) = some n ∧
      hexValue? (Nat.digitChar n).toUpper = some n := by decide
  obtain ⟨small, rfl | rfl⟩ := h
  · exact (all n small).1
  · exact (all n small).2

theorem readUnit?_append {t rest : Text} {n : Nat} (h : WritesUnit t n) :
    readUnit? (t ++ rest) = some (n, rest) := by
  cases h with
  | intro ha hb hc hd =>
    simp [readUnit?, hexValue?_of_isHexDigit ha, hexValue?_of_isHexDigit hb,
      hexValue?_of_isHexDigit hc, hexValue?_of_isHexDigit hd]

/-- Every way to write a character is read as that character. -/
theorem readText?_char {w : Text} {c : Char} (h : WritesChar w c) (fuel : Nat) (done rest : Text) :
    readText? (fuel + 1) done (w ++ rest) = readText? fuel (c :: done) rest := by
  cases h with
  | plain visible quote backslash =>
    have shown : ¬ c.toNat < 0x20 := Nat.not_lt.2 visible
    simp [readText?, backslash, shown]
  | @short mark c h =>
    have known : ∀ e ∈ shortEscapes, e.1 ≠ 'u' ∧ simpleEscape? e.1 = some e.2 := by decide
    obtain ⟨letter, simple⟩ := known (mark, c) h
    rw [List.cons_append, List.cons_append, List.nil_append, readText?, simple]
    exact letter
  | @unit t c h =>
    have apart : ¬ (0xD800 ≤ c.toNat ∧ c.toNat < 0xDC00) ∧
        ¬ (0xDC00 ≤ c.toNat ∧ c.toNat < 0xE000) := by
      have code := codePoint_cases c
      omega
    simp [readText?, readUnits?, readUnit?_append h, apart, Char.ofNat_toNat]
  | @pair t t' high low c h h' small small' value =>
    have first : 0xD800 ≤ 0xD800 + high ∧ 0xD800 + high < 0xDC00 := by omega
    have second : 0xDC00 ≤ 0xDC00 + low ∧ 0xDC00 + low < 0xE000 := by omega
    have both : Char.ofNat (0x10000 + 0x400 * high + low) = c := by
      rw [← value, Char.ofNat_toNat]
    simp [readText?, readUnits?, readUnit?_append h, readUnit?_append h', first, second, both]

theorem length_pos_of_writesChar {w : Text} {c : Char} (h : WritesChar w c) : 0 < w.length := by
  cases h <;> simp

theorem readText?_append {t s rest : Text} (h : WritesChars t s) {fuel : Nat} {done : Text}
    (enough : t.length < fuel) :
    readText? fuel done (t ++ '"' :: rest) = some (done.reverse ++ s, rest) := by
  induction h generalizing fuel done with
  | nil =>
    obtain ⟨fuel, rfl⟩ := Nat.exists_eq_add_of_lt enough
    simp [readText?]
  | @cons w t c s here later ih =>
    have some := length_pos_of_writesChar here
    rw [List.length_append] at enough
    obtain ⟨fuel, rfl⟩ : ∃ k, fuel = k + 1 := ⟨fuel - 1, by omega⟩
    rw [List.append_assoc, readText?_char here, ih (by omega)]
    simp

theorem readText?_quoted {t s : Text} (h : WritesChars t s) (rest : Text) :
    readText? ((t ++ '"' :: rest).length + 1) [] (t ++ '"' :: rest) = some (s, rest) := by
  refine readText?_append h ?_
  rw [List.length_append]
  omega

theorem IsNumber.exists_cons {t : Text} (h : IsNumber t) :
    ∃ c rest, t = c :: rest ∧ (c = '-' ∨ '0' ≤ c ∧ c ≤ '9') := by
  cases h with
  | plain h =>
    obtain ⟨c, rest, rfl, digit⟩ := h.exists_cons
    exact ⟨c, rest, rfl, .inr digit⟩
  | negative h => exact ⟨'-', _, rfl, .inl rfl⟩

/-- A number starts with no character that has another meaning. -/
theorem IsNumber.first_ne {c d : Char} {rest : Text} (h : IsNumber (c :: rest)) (minus : d ≠ '-')
    (hd : ¬ ('0' ≤ d ∧ d ≤ '9')) : c ≠ d := by
  obtain ⟨_, _, ⟨⟩, rfl | digit⟩ := h.exists_cons
  · exact minus.symm
  · exact ne_of_digit digit hd

/-- A value starts with no spacing and no closing bracket. -/
theorem exists_cons_of_writesBare {t : Text} {j : Json} (h : WritesBare t j) :
    ∃ c rest, t = c :: rest ∧ isSpace c = false ∧ c ≠ ']' := by
  cases h with
  | null => exact ⟨'n', _, rfl, by decide, by decide⟩
  | true => exact ⟨'t', _, rfl, by decide, by decide⟩
  | false => exact ⟨'f', _, rfl, by decide, by decide⟩
  | number h =>
    obtain ⟨c, rest, rfl, -⟩ := h.exists_cons
    refine ⟨c, rest, rfl, eq_false_of_ne_true fun space => ?_, h.first_ne (by decide) (by decide)⟩
    rcases isSpace_iff.1 space with same | same | same | same <;>
      exact h.first_ne (by decide) (by decide) same
  | _ => exact ⟨_, _, rfl, by decide, by decide⟩

theorem readValue?_number {token rest : Text} (h : IsNumber token) (ends : Ends rest) (fuel : Nat) :
    readValue? (fuel + 1) (token ++ rest) = some (.number token, rest) := by
  have read := readNumber?_append h ends
  obtain ⟨c, r, rfl, -⟩ := h.exists_cons
  rw [List.cons_append] at read ⊢
  rw [readValue?]
  · simp [read]
  all_goals
    intro _ same
    exact h.first_ne (by decide) (by decide) (List.cons.inj same).1

/-- Without the spacing around it, what writes a value writes it bare. -/
theorem exists_bare_of_writes {t : Text} {j : Json} (h : Writes t j) :
    ∃ bare after, WritesBare bare j ∧ IsSpacing after ∧ bare.length ≤ t.length ∧
      ∀ rest, skipSpace (t ++ rest) = bare ++ (after ++ rest) := by
  cases h with
  | @intro before bare after _ hb h ha =>
    refine ⟨bare, after, h, ha, by simp; omega, fun rest => ?_⟩
    obtain ⟨c, r, rfl, start, -⟩ := exists_cons_of_writesBare h
    rw [List.append_assoc, skipSpace_append hb, List.append_assoc]
    exact skipSpace_cons start _

theorem exists_cons_of_writesItems {t : Text} {items : List Json} (h : WritesItems t items)
    (rest : Text) : ∃ c r, skipSpace (t ++ rest) = c :: r ∧ c ≠ ']' := by
  have first {t : Text} {j : Json} (h : Writes t j) (rest : Text) :
      ∃ c r, skipSpace (t ++ rest) = c :: r ∧ c ≠ ']' := by
    obtain ⟨bare, after, hb, -, -, start⟩ := exists_bare_of_writes h
    obtain ⟨c, r, rfl, -, bracket⟩ := exists_cons_of_writesBare hb
    exact ⟨c, _, start rest, bracket⟩
  cases h with
  | one h => exact first h rest
  | more h later =>
    rw [List.append_assoc]
    exact first h _

theorem exists_cons_of_writesMembers {t : Text} {members : List (Text × Json)}
    (h : WritesMembers t members) (rest : Text) : ∃ r, skipSpace (t ++ rest) = '"' :: r := by
  have first {t : Text} {m : Text × Json} (h : WritesMember t m) (rest : Text) :
      ∃ r, skipSpace (t ++ rest) = '"' :: r := by
    cases h with
    | intro hb _ _ _ =>
      rw [List.append_assoc, skipSpace_append hb]
      exact ⟨_, skipSpace_cons (by decide) _⟩
  cases h with
  | one h => exact first h rest
  | more h later =>
    rw [List.append_assoc]
    exact first h _

/-- A value that is read up to its end wherever it is written, with an allowance for its length. -/
def ReadsBack (fuel : Nat) (j : Json) : Prop :=
  ∀ {t rest : Text}, WritesBare t j → Ends rest → t.length ≤ fuel →
    readValue? fuel (t ++ rest) = some (j, rest)

section Steps
variable {fuel : Nat} {t r : Text} {c : Char}

theorem readItems?_item {item : Json} (read : ReadsBack fuel item) (h : Writes t item)
    (enough : t.length ≤ fuel) (done : List Json) (hc : c = ',' ∨ c = ']') :
    readItems? (fuel + 1) done (skipSpace (t ++ c :: r)) =
      if c = ',' then readItems? fuel (item :: done) (skipSpace r)
      else some ((item :: done).reverse, r) := by
  obtain ⟨bare, after, hb, ha, short, start⟩ := exists_bare_of_writes h
  obtain ⟨ends, behind⟩ := ends_closer (r := r) ha (hc.imp_right .inl)
  rw [start, readItems?, read hb ends (Nat.le_trans short enough)]
  rcases hc with rfl | rfl <;> simp [behind]

theorem readMembers?_member {name : Text} {value : Json} (read : ReadsBack fuel value)
    (h : WritesMember t (name, value)) (enough : t.length ≤ fuel) (done : List (Text × Json))
    (hc : c = ',' ∨ c = '\x7d') :
    readMembers? (fuel + 1) done (skipSpace (t ++ c :: r)) =
      if c = ',' then readMembers? fuel ((name, value) :: done) (skipSpace r)
      else some (((name, value) :: done).reverse, r) := by
  cases h with
  | @intro before quoted between t _ _ hb hq hs h =>
    obtain ⟨bare, after, hb', ha, short, start⟩ := exists_bare_of_writes h
    obtain ⟨ends, behind⟩ := ends_closer (r := r) ha (hc.imp_right .inr)
    have colon : skipSpace (between ++ ':' :: (t ++ c :: r)) = ':' :: (t ++ c :: r) := by
      rw [skipSpace_append hs]
      exact skipSpace_cons (by decide) _
    have quote : skipSpace (before ++ '"' :: (quoted ++ '"' :: (between ++ ':' :: t)) ++ c :: r) =
        '"' :: (quoted ++ '"' :: (between ++ ':' :: (t ++ c :: r))) := by
      rw [List.append_assoc, skipSpace_append hb]
      simp [skipSpace_cons (by decide : isSpace '"' = false)]
    have valued : readValue? fuel (bare ++ (after ++ c :: r)) = some (value, after ++ c :: r) := by
      refine read hb' ends ?_
      simp only [List.length_append, List.length_cons] at enough
      omega
    rw [quote, readMembers?]
    simp only [readText?_quoted hq, colon, start, valued]
    rcases hc with rfl | rfl <;> simp [behind]

end Steps

mutual

/-- A value that is written is read up to its end. -/
theorem readsBack : ∀ (j : Json) (fuel : Nat), ReadsBack fuel j
  | _, 0, _, _, h, _, enough => by
    obtain ⟨c, r, rfl, -⟩ := exists_cons_of_writesBare h
    cases enough
  | .null, fuel + 1, _, _, .null, _, _ => rfl
  | .bool _, fuel + 1, _, _, .true, _, _ => rfl
  | .bool _, fuel + 1, _, _, .false, _, _ => rfl
  | .number _, fuel + 1, _, _, .number h, ends, _ => readValue?_number h ends fuel
  | .text content, fuel + 1, _, rest, .text h, _, _ => by
    rw [List.cons_append, List.append_assoc, List.singleton_append, readValue?,
      readText?_quoted h]
    rfl
  | .array items, fuel + 1, _, rest, h, _, enough => by
    cases h with
    | emptyArray space =>
      have closed : isSpace ']' = false := by decide
      simp [readValue?, skipSpace_append space, skipSpace_cons closed]
    | @array t _ h =>
      simp only [List.length_cons, List.length_append, List.length_nil] at enough
      obtain ⟨fuel, rfl⟩ : ∃ k, fuel = k + 1 := ⟨fuel - 1, by omega⟩
      have read := readItems?_append items fuel [] rest h (by omega)
      obtain ⟨c, r, start, bracket⟩ := exists_cons_of_writesItems h (']' :: rest)
      rw [start] at read
      simp [readValue?, start, bracket, read]
  | .object members, fuel + 1, _, rest, h, _, enough => by
    cases h with
    | emptyObject space =>
      have closed : isSpace '\x7d' = false := by decide
      simp [readValue?, skipSpace_append space, skipSpace_cons closed]
    | @object t _ h =>
      simp only [List.length_cons, List.length_append, List.length_nil] at enough
      obtain ⟨fuel, rfl⟩ : ∃ k, fuel = k + 1 := ⟨fuel - 1, by omega⟩
      have read := readMembers?_append members fuel [] rest h (by omega)
      obtain ⟨r, start⟩ := exists_cons_of_writesMembers h ('\x7d' :: rest)
      rw [start] at read
      simp [readValue?, start, read]

theorem readItems?_append : ∀ (items : List Json) (fuel : Nat) (done : List Json) (rest : Text)
    {t : Text}, WritesItems t items → t.length ≤ fuel →
      readItems? (fuel + 1) done (skipSpace (t ++ ']' :: rest)) = some (done.reverse ++ items, rest)
  | item :: items, fuel, done, rest, _, h, enough => by
    cases h with
    | one h =>
      rw [readItems?_item (readsBack item fuel) h enough done (.inr rfl)]
      simp
    | more h later =>
      rw [List.length_append, List.length_cons] at enough
      obtain ⟨fuel, rfl⟩ : ∃ k, fuel = k + 1 := ⟨fuel - 1, by omega⟩
      rw [List.append_assoc, List.cons_append,
        readItems?_item (readsBack item (fuel + 1)) h (by omega) done (.inl rfl), if_pos rfl,
        readItems?_append items fuel (item :: done) rest later (by omega)]
      simp

theorem readMembers?_append : ∀ (members : List (Text × Json)) (fuel : Nat)
    (done : List (Text × Json)) (rest : Text) {t : Text}, WritesMembers t members →
      t.length ≤ fuel → readMembers? (fuel + 1) done (skipSpace (t ++ '\x7d' :: rest)) =
        some (done.reverse ++ members, rest)
  | (name, value) :: members, fuel, done, rest, _, h, enough => by
    cases h with
    | one h =>
      rw [readMembers?_member (readsBack value fuel) h enough done (.inr rfl)]
      simp
    | more h later =>
      rw [List.length_append, List.length_cons] at enough
      obtain ⟨fuel, rfl⟩ : ∃ k, fuel = k + 1 := ⟨fuel - 1, by omega⟩
      rw [List.append_assoc, List.cons_append,
        readMembers?_member (readsBack value (fuel + 1)) h (by omega) done (.inl rfl), if_pos rfl,
        readMembers?_append members fuel ((name, value) :: done) rest later (by omega)]
      simp

end

theorem read?_of_writes {t : Text} {j : Json} (h : Writes t j) : read? t = some j := by
  obtain ⟨bare, after, hb, ha, short, start⟩ := exists_bare_of_writes h
  have whole := start []
  rw [List.append_nil, List.append_nil] at whole
  have ends : Ends after := by simpa using Ends.after_spacing ha ends_nil
  rw [read?, whole, readsBack j _ hb ends (by omega)]
  simp [skipSpace_eq_nil ha]

/-- A text writes at most one value. -/
theorem Writes.unique {t : Text} {j k : Json} (h : Writes t j) (h' : Writes t k) : j = k :=
  Option.some.inj ((read?_of_writes h).symm.trans (read?_of_writes h'))

end PciInventory.Json
