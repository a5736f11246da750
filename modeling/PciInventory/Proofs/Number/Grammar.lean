import Mathlib.Data.List.Basic
import Mathlib.Data.List.TakeWhile
import Mathlib.Tactic.ByContra
import PciInventory.Number.Literal
import PciInventory.Number.WholeLiteral
import PciInventory.Text.Blank

/-!
# The grammar of numbers

Which texts are decimal literals and which are whole numbers, said by their parts and apart from the
two readers. Each reader accepts the texts of its grammar and no others, and finds the parts that
the grammar tells; so a text is a number in one way only.

Nothing is said here of the binary64 number that a literal is rounded to.
-/
namespace PciInventory

namespace Text

/-- One decimal digit or more, of any script. -/
structure IsNumeral (t : Text) : Prop where
  ne_nil : t ≠ []
  digits : ∀ c ∈ t, isDigit c = true

/-- A sign in front of a number, and whether it is a minus; there may be none. -/
inductive IsSign : Text → Bool → Prop where
  | none : IsSign [] false
  | plus : IsSign ['+'] false
  | minus : IsSign ['-'] true

/-- A text in front of which no sign and no further digit can stand by mistake. -/
def StartsWithout (p : Char → Bool) (t : Text) : Prop := ∀ c, t.head? = some c → p c = false

theorem forall_mem_of_all {p : Char → Prop} [DecidablePred p] {t : Text}
    (h : t.all (fun c => decide (p c)) = true) : ∀ c ∈ t, p c := by simpa using h

theorem startsWithout_nil (p : Char → Bool) : StartsWithout p [] := nofun

theorem startsWithout_cons {p : Char → Bool} {c : Char} {t : Text} :
    StartsWithout p (c :: t) ↔ p c = false := by simp [StartsWithout]

theorem exists_zero {c : Char} {n : Nat} (h : digitValue? c = some n) :
    ∃ first ∈ digitZeros, c.toNat = first + n ∧ n < 10 := by
  obtain ⟨first, found, rfl⟩ := Option.map_eq_some_iff.1 h
  have here := List.find?_some found
  simp only [Bool.and_eq_true, decide_eq_true_eq] at here
  exact ⟨first, List.mem_of_find?_eq_some found, by omega, by omega⟩

theorem not_isBlank_of_isDigit {c : Char} (h : isDigit c = true) : isBlank c = false := by
  have apart : ∀ first ∈ digitZeros, ∀ span ∈ blankSpans,
      span.2 < first ∨ first + 10 ≤ span.1 := by decide
  obtain ⟨n, value⟩ := Option.isSome_iff_exists.1 h
  obtain ⟨first, script, here, small⟩ := exists_zero value
  by_contra blank
  rw [Bool.not_eq_false, isBlank, Spans.contains_iff] at blank
  obtain ⟨span, hs, inside⟩ := blank
  have := apart first script span hs
  omega

theorem isDigit_mark {c : Char} (h : c ∈ ['+', '-', '.', 'e', 'E', '_']) : isDigit c = false := by
  have all : ∀ c ∈ ['+', '-', '.', 'e', 'E', '_'], isDigit c = false :=
    forall_mem_of_all (by decide +kernel)
  exact all c h

theorem IsNumeral.exists_cons {t : Text} (h : IsNumeral t) :
    ∃ c rest, t = c :: rest ∧ isDigit c = true := by
  obtain ⟨c, rest, rfl⟩ := List.exists_cons_of_ne_nil h.ne_nil
  exact ⟨c, rest, rfl, h.digits c List.mem_cons_self⟩

end Text

open Text

/-- A sign is a plus or a minus. -/
def isSignMark (c : Char) : Bool := c == '+' || c == '-'

theorem not_isSignMark_of_isDigit {c : Char} (h : isDigit c = true) : isSignMark c = false := by
  by_contra signed
  have mark : c ∈ ['+', '-', '.', 'e', 'E', '_'] := by
    simp only [isSignMark, Bool.not_eq_false, Bool.or_eq_true, beq_iff_eq] at signed
    rcases signed with rfl | rfl
    · decide
    · decide
  rw [isDigit_mark mark] at h
  cases h

namespace Literal

theorem exists_takeSign (t : Text) : ∃ sign negative rest,
    takeSign t = (negative, rest) ∧ IsSign sign negative ∧ t = sign ++ rest := by
  unfold takeSign
  split
  · exact ⟨['-'], true, _, rfl, .minus, rfl⟩
  · exact ⟨['+'], false, _, rfl, .plus, rfl⟩
  · exact ⟨[], false, _, rfl, .none, rfl⟩

theorem takeSign_of_startsWithout {t : Text} (h : StartsWithout isSignMark t) :
    takeSign t = (false, t) := by
  unfold takeSign
  split
  · exact absurd (startsWithout_cons.1 h) (by decide)
  · exact absurd (startsWithout_cons.1 h) (by decide)
  · rfl

theorem takeSign_append {sign t : Text} {negative : Bool} (signed : IsSign sign negative)
    (h : StartsWithout isSignMark t) : takeSign (sign ++ t) = (negative, t) := by
  cases signed with
  | none => exact takeSign_of_startsWithout h
  | plus => rfl
  | minus => rfl

theorem takeDigits_append {digits t : Text} (each : ∀ c ∈ digits, isDigit c = true)
    (h : StartsWithout isDigit t) : takeDigits (digits ++ t) = (digits, t) := by
  have taken : t.takeWhile isDigit = [] ∧ t.dropWhile isDigit = t := by
    cases t with
    | nil => exact ⟨rfl, rfl⟩
    | cons c rest =>
      have other := startsWithout_cons.1 h
      simp [other]
  rw [takeDigits, List.takeWhile_append_of_pos each, List.dropWhile_append_of_pos each, taken.1,
    taken.2, List.append_nil]

theorem takeDigits_digits (t : Text) : ∀ c ∈ (takeDigits t).1, isDigit c = true :=
  fun _ => List.mem_takeWhile_imp

theorem takeDigits_split (t : Text) : t = (takeDigits t).1 ++ (takeDigits t).2 :=
  List.takeWhile_append_dropWhile.symm

theorem takeFraction_of_head? {t : Text} (h : t.head? ≠ some '.') : takeFraction t = ([], t) := by
  unfold takeFraction
  split
  · exact absurd List.head?_cons h
  · rfl

/-- The digits of a literal, those in front of the point and those after it; there is at least one,
and a point needs none behind it. -/
inductive IsMantissa : Text → Text → Text → Prop where
  | whole {whole : Text} (h : IsNumeral whole) : IsMantissa whole whole []
  | pointed {whole fraction : Text} (h : IsNumeral whole)
      (each : ∀ c ∈ fraction, isDigit c = true) :
      IsMantissa (whole ++ '.' :: fraction) whole fraction
  | fraction {fraction : Text} (h : IsNumeral fraction) : IsMantissa ('.' :: fraction) [] fraction

/-- A power of ten behind the digits of a literal; there may be none. -/
inductive IsPower : Text → Int → Prop where
  | none : IsPower [] 0
  | some {mark : Char} {sign digits : Text} {negative : Bool} (marked : mark = 'e' ∨ mark = 'E')
      (signed : IsSign sign negative) (h : IsNumeral digits) :
      IsPower (mark :: (sign ++ digits))
        (if negative then -(digitsToNat digits : Int) else digitsToNat digits)

/-- A text is a decimal literal of certain parts. -/
inductive Spells : Text → Literal → Prop where
  | intro {sign mantissa powerText whole fraction : Text} {negative : Bool} {power : Int}
      (signed : IsSign sign negative) (hm : IsMantissa mantissa whole fraction)
      (hp : IsPower powerText power) :
      Spells (sign ++ (mantissa ++ powerText)) ⟨negative, whole, fraction, power⟩

theorem IsPower.startsWithout {t : Text} {power : Int} (h : IsPower t power) :
    StartsWithout isDigit t ∧ t.head? ≠ Option.some '.' := by
  cases h with
  | none => exact ⟨startsWithout_nil _, nofun⟩
  | some marked _ _ =>
    rw [startsWithout_cons]
    rcases marked with rfl | rfl
    · exact ⟨isDigit_mark (by decide), by simp⟩
    · exact ⟨isDigit_mark (by decide), by simp⟩

theorem readPower?_eq_some_iff {t : Text} {power : Int} :
    readPower? t = some power ↔ IsPower t power := by
  constructor
  · intro h
    unfold readPower? at h
    split at h
    · cases h
      exact .none
    · rename_i mark rest
      split at h
      · rename_i marked
        obtain ⟨sign, negative, digits, taken, signed, parted⟩ := exists_takeSign rest
        simp only [taken] at h
        rw [parted]
        split at h
        · rename_i each
          cases h
          exact .some marked signed ⟨each.1, List.all_eq_true.1 each.2⟩
        · cases h
      · cases h
  · intro h
    cases h with
    | none => rfl
    | some marked signed digits =>
      obtain ⟨c, rest, here, digit⟩ := digits.exists_cons
      have unsigned : StartsWithout isSignMark _ :=
        here ▸ startsWithout_cons.2 (not_isSignMark_of_isDigit digit)
      have all : List.all _ isDigit = true := List.all_eq_true.2 digits.digits
      simp only [readPower?, if_pos marked, takeSign_append signed unsigned]
      rw [if_pos ⟨digits.ne_nil, all⟩]

/-- What the digits in front of a point and after it are taken from is a mantissa, if there is a
digit at all. -/
theorem isMantissa_of_take (t : Text)
    (some : ¬ ((takeDigits t).1 = [] ∧ (takeFraction (takeDigits t).2).1 = [])) :
    ∃ mantissa, t = mantissa ++ (takeFraction (takeDigits t).2).2 ∧
      IsMantissa mantissa (takeDigits t).1 (takeFraction (takeDigits t).2).1 := by
  have split := takeDigits_split t
  have each := takeDigits_digits t
  generalize takeDigits t = taken at split each some ⊢
  obtain ⟨whole, rest⟩ := taken
  simp only at split each some ⊢
  unfold takeFraction at some ⊢
  split
  · rename_i rest
    have splitRest := takeDigits_split rest
    have eachRest := takeDigits_digits rest
    simp only at some
    generalize takeDigits rest = taken at splitRest eachRest some ⊢
    obtain ⟨fraction, behind⟩ := taken
    simp only at splitRest eachRest some ⊢
    refine ⟨whole ++ '.' :: fraction, by simp [split, splitRest], ?_⟩
    by_cases none : whole = []
    · subst none
      exact .fraction ⟨fun none' => some ⟨rfl, none'⟩, eachRest⟩
    · exact .pointed ⟨none, each⟩ eachRest
  · exact ⟨whole, split, .whole ⟨fun none => some (by simp_all), each⟩⟩

/-- A mantissa is taken apart into its digits, whatever can stand behind it. -/
theorem IsMantissa.take {mantissa whole fraction rest : Text}
    (h : IsMantissa mantissa whole fraction) (ends : StartsWithout isDigit rest)
    (unpointed : rest.head? ≠ some '.') :
    takeDigits (mantissa ++ rest) = (whole, (takeDigits (mantissa ++ rest)).2) ∧
      takeFraction (takeDigits (mantissa ++ rest)).2 = (fraction, rest) ∧
      ¬ (whole = [] ∧ fraction = []) := by
  cases h with
  | whole numeral =>
    rw [takeDigits_append numeral.digits ends]
    exact ⟨rfl, takeFraction_of_head? unpointed, fun none => numeral.ne_nil none.1⟩
  | pointed numeral each =>
    have point : StartsWithout isDigit ('.' :: (fraction ++ rest)) :=
      startsWithout_cons.2 (isDigit_mark (by decide))
    rw [List.append_assoc, List.cons_append, takeDigits_append numeral.digits point]
    exact ⟨rfl, takeDigits_append each ends, fun none => numeral.ne_nil none.1⟩
  | fraction numeral =>
    have point : StartsWithout isDigit ('.' :: (fraction ++ rest)) :=
      startsWithout_cons.2 (isDigit_mark (by decide))
    have none : ∀ c ∈ ([] : Text), isDigit c = true := nofun
    have front := takeDigits_append none point
    rw [List.nil_append] at front
    rw [List.cons_append, front]
    exact ⟨rfl, takeDigits_append numeral.digits ends, fun none => numeral.ne_nil none.2⟩

theorem IsMantissa.startsWithout {mantissa whole fraction : Text}
    (h : IsMantissa mantissa whole fraction) (rest : Text) :
    StartsWithout isSignMark (mantissa ++ rest) := by
  cases h with
  | whole numeral =>
    obtain ⟨c, more, rfl, digit⟩ := numeral.exists_cons
    exact startsWithout_cons.2 (not_isSignMark_of_isDigit digit)
  | pointed numeral each =>
    obtain ⟨c, more, rfl, digit⟩ := numeral.exists_cons
    exact startsWithout_cons.2 (not_isSignMark_of_isDigit digit)
  | fraction numeral => exact startsWithout_cons.2 (by decide)

/-- The reader of decimal literals accepts the texts of their grammar, with the parts they have. -/
theorem read?_eq_some_iff_spells {t : Text} {l : Literal} : read? t = some l ↔ Spells t l := by
  constructor
  · intro h
    obtain ⟨sign, negative, rest, taken, signed, parted⟩ := exists_takeSign t
    simp only [read?, taken] at h
    split at h
    · cases h
    · rename_i some
      obtain ⟨power, read, rfl⟩ := Option.map_eq_some_iff.1 h
      obtain ⟨mantissa, partedRest, digits⟩ := isMantissa_of_take rest some
      have spelled := Spells.intro signed digits (readPower?_eq_some_iff.1 read)
      rwa [← partedRest, ← parted] at spelled
  · intro h
    cases h with
    | intro signed digits behind =>
      obtain ⟨ends, unpointed⟩ := behind.startsWithout
      obtain ⟨front, back, some⟩ := digits.take ends unpointed
      simp only [read?, takeSign_append signed (digits.startsWithout _)]
      rw [front, back]
      simp only [if_neg some, readPower?_eq_some_iff.2 behind, Option.map_some]

/-- The characters that a literal can have beside digits. -/
def marks : Text := ['+', '-', '.', 'e', 'E']

theorem mem_marks_of_isSign {sign : Text} {negative : Bool} (h : IsSign sign negative) :
    ∀ c ∈ sign, c ∈ marks := by
  cases h with
  | none => exact nofun
  | plus => exact forall_mem_of_all (by decide)
  | minus => exact forall_mem_of_all (by decide)

theorem IsMantissa.chars {mantissa whole fraction : Text} (h : IsMantissa mantissa whole fraction) :
    mantissa ≠ [] ∧ ∀ c ∈ mantissa, isDigit c = true ∨ c = '.' := by
  cases h with
  | whole numeral => exact ⟨numeral.ne_nil, fun c hc => .inl (numeral.digits c hc)⟩
  | pointed numeral each =>
    refine ⟨by simp, fun c hc => ?_⟩
    rcases List.mem_append.1 hc with front | back
    · exact .inl (numeral.digits c front)
    · rcases List.mem_cons.1 back with point | later
      · exact .inr point
      · exact .inl (each c later)
  | fraction numeral =>
    refine ⟨by simp, fun c hc => ?_⟩
    rcases List.mem_cons.1 hc with point | later
    · exact .inr point
    · exact .inl (numeral.digits c later)

theorem IsPower.chars {t : Text} {power : Int} (h : IsPower t power) :
    (∀ c ∈ t, isDigit c = true ∨ c ∈ marks) ∧
      ∀ c, t.getLast? = Option.some c → isDigit c = true := by
  cases h with
  | none => exact ⟨nofun, nofun⟩
  | @some mark sign digits negative marked signed numeral =>
    have final : (mark :: (sign ++ digits)).getLast? = digits.getLast? := by
      rw [← List.cons_append, List.getLast?_append_of_ne_nil _ numeral.ne_nil]
    refine ⟨fun c hc => ?_, fun c hc => ?_⟩
    · rcases List.mem_cons.1 hc with rfl | later
      · rcases marked with rfl | rfl
        · exact .inr (by decide)
        · exact .inr (by decide)
      · rcases List.mem_append.1 later with sign | digit
        · exact .inr (mem_marks_of_isSign signed c sign)
        · exact .inl (numeral.digits c digit)
    · rw [final] at hc
      exact numeral.digits c (List.mem_of_getLast? hc)

/-- A literal is made of digits and a few other characters. -/
theorem Spells.chars {t : Text} {l : Literal} (h : Spells t l) :
    t ≠ [] ∧ ∀ c ∈ t, isDigit c = true ∨ c ∈ marks := by
  cases h with
  | intro signed mantissa power =>
    refine ⟨by simp [mantissa.chars.1], fun c hc => ?_⟩
    rcases List.mem_append.1 hc with sign | unsigned
    · exact .inr (mem_marks_of_isSign signed c sign)
    · rcases List.mem_append.1 unsigned with front | back
      · rcases mantissa.chars.2 c front with digit | rfl
        · exact .inl digit
        · exact .inr (by decide)
      · exact power.chars.1 c back

theorem Spells.last {t : Text} {l : Literal} {c : Char} (h : Spells t l)
    (hc : t.getLast? = some c) : isDigit c = true ∨ c = '.' := by
  cases h with
  | @intro sign mantissa powerText whole fraction negative power signed digits behind =>
    rw [List.getLast?_append_of_ne_nil _ (by simp [digits.chars.1])] at hc
    by_cases none : powerText = []
    · rw [none, List.append_nil] at hc
      exact digits.chars.2 c (List.mem_of_getLast? hc)
    · rw [List.getLast?_append_of_ne_nil _ none] at hc
      exact .inl (behind.chars.2 c hc)

theorem Spells.visible {t : Text} {l : Literal} (h : Spells t l) : ∀ c ∈ t, isBlank c = false := by
  intro c hc
  rcases h.chars.2 c hc with digit | mark
  · exact not_isBlank_of_isDigit digit
  · have all : ∀ c ∈ marks, isBlank c = false := forall_mem_of_all (by decide)
    exact all c mark

/-- A text is a literal in one way only. -/
theorem Spells.unique {t : Text} {l l' : Literal} (h : Spells t l) (h' : Spells t l') : l = l' := by
  have same := (read?_eq_some_iff_spells.2 h).symm.trans (read?_eq_some_iff_spells.2 h')
  exact Option.some.inj same

end Literal

namespace WholeLiteral

/-- Numerals with a single underscore between two of them, and all their digits. -/
inductive IsGrouped : Text → Text → Prop where
  | one {t : Text} (h : IsNumeral t) : IsGrouped t t
  | more {t rest digits : Text} (h : IsNumeral t) (later : IsGrouped rest digits) :
      IsGrouped (t ++ '_' :: rest) (t ++ digits)

/-- A text is a whole number of at most 4300 digits. -/
inductive Spells : Text → Int → Prop where
  | intro {sign t digits : Text} {negative : Bool} (signed : IsSign sign negative)
      (h : IsGrouped t digits) (short : digits.length ≤ 4300) :
      Spells (sign ++ t) (if negative then -(digitsToNat digits : Int) else digitsToNat digits)

theorem isNumeral_cons_iff {t : Text} {gs : List Text} :
    isNumeral (t :: gs) = true ↔ IsNumeral t ∧ isNumeral gs = true := by
  simp only [isNumeral, List.all_cons, Bool.and_eq_true, Bool.not_eq_true',
    List.isEmpty_eq_false_iff, List.all_eq_true]
  constructor
  · rintro ⟨⟨some, digits⟩, later⟩
    exact ⟨⟨some, digits⟩, later⟩
  · rintro ⟨⟨some, digits⟩, later⟩
    exact ⟨⟨some, digits⟩, later⟩

theorem not_underscore {t : Text} (h : IsNumeral t) : ∀ c ∈ t, (c == '_') = false := by
  intro c hc
  by_contra underscore
  have same : c = '_' := by simpa using underscore
  have digit := h.digits c hc
  rw [same, isDigit_mark (by decide)] at digit
  cases digit

theorem IsGrouped.isNumeral_groups {t digits : Text} (h : IsGrouped t digits) :
    isNumeral (groups t) = true ∧ (groups t).flatten = digits := by
  induction h with
  | @one t numeral =>
    have single : groups t = [t] := List.splitOnP_eq_singleton (not_underscore numeral)
    rw [single, isNumeral_cons_iff]
    exact ⟨⟨numeral, rfl⟩, by simp⟩
  | @more t rest digits numeral later ih =>
    have split : groups (t ++ '_' :: rest) = t :: groups rest :=
      List.splitOnP_append_cons_of_forall_mem (not_underscore numeral) '_' (by decide) rest
    rw [split, isNumeral_cons_iff, List.flatten_cons, ih.2]
    exact ⟨⟨numeral, ih.1⟩, rfl⟩

theorem isGrouped_joined {gs : List Text} (some : gs ≠ []) (h : isNumeral gs = true) :
    IsGrouped (['_'].intercalate gs) gs.flatten := by
  induction gs with
  | nil => exact absurd rfl some
  | cons t rest ih =>
    obtain ⟨numeral, later⟩ := isNumeral_cons_iff.1 h
    cases rest with
    | nil => simpa using IsGrouped.one numeral
    | cons t' rest =>
      have grouped := ih (List.cons_ne_nil _ _) later
      rw [List.intercalate_cons_cons, List.flatten_cons, List.append_assoc]
      exact .more numeral grouped

theorem isGrouped_iff {t digits : Text} :
    IsGrouped t digits ↔ isNumeral (groups t) = true ∧ (groups t).flatten = digits := by
  constructor
  · exact IsGrouped.isNumeral_groups
  · rintro ⟨numeral, rfl⟩
    have some : groups t ≠ [] := List.splitOnP_ne_nil _ t
    have joined := isGrouped_joined some numeral
    have whole : ['_'].intercalate (groups t) = t := List.intercalate_splitOn '_'
    rwa [whole] at joined

theorem readUnsigned?_eq_some_iff {t : Text} {n : Nat} : readUnsigned? t = some n ↔
    ∃ digits, IsGrouped t digits ∧ digits.length ≤ 4300 ∧ n = digitsToNat digits := by
  simp only [readUnsigned?, isGrouped_iff]
  constructor
  · intro h
    split at h
    · rename_i numeral
      cases h
      exact ⟨_, ⟨numeral.1, rfl⟩, numeral.2, rfl⟩
    · cases h
  · rintro ⟨digits, ⟨numeral, rfl⟩, short, rfl⟩
    rw [if_pos ⟨numeral, short⟩]

theorem read?_eq_map (t : Text) : read? t = (readUnsigned? (Literal.takeSign t).2).map
    fun n : Nat => if (Literal.takeSign t).1 then -(n : Int) else (n : Int) := by
  unfold read?
  split
  · rename_i rest
    cases h : readUnsigned? rest <;> simp [Literal.takeSign, h]
  · rename_i rest
    cases h : readUnsigned? rest <;> simp [Literal.takeSign, h]
  · rename_i unmarked unmarked'
    have unsigned : StartsWithout isSignMark t := by
      intro c front
      obtain ⟨rest, rfl⟩ := List.head?_eq_some_iff.1 front
      have minus : c ≠ '-' := fun same => unmarked rest (by rw [same])
      have plus : c ≠ '+' := fun same => unmarked' rest (by rw [same])
      simp [isSignMark, minus, plus]
    rw [Literal.takeSign_of_startsWithout unsigned]
    cases h : readUnsigned? t <;> simp

theorem IsGrouped.startsWithout {t digits : Text} (h : IsGrouped t digits) :
    StartsWithout isSignMark t := by
  cases h with
  | one numeral =>
    obtain ⟨c, more, rfl, digit⟩ := numeral.exists_cons
    exact startsWithout_cons.2 (not_isSignMark_of_isDigit digit)
  | more numeral later =>
    obtain ⟨c, more, rfl, digit⟩ := numeral.exists_cons
    exact startsWithout_cons.2 (not_isSignMark_of_isDigit digit)

/-- The reader of whole numbers accepts the texts of their grammar, with the number they are. -/
theorem read?_eq_some_iff_spells {t : Text} {n : Int} : read? t = some n ↔ Spells t n := by
  rw [read?_eq_map, Option.map_eq_some_iff]
  constructor
  · rintro ⟨k, read, rfl⟩
    obtain ⟨sign, negative, rest, taken, signed, parted⟩ := Literal.exists_takeSign t
    rw [taken] at read ⊢
    obtain ⟨digits, grouped, short, rfl⟩ := readUnsigned?_eq_some_iff.1 read
    rw [parted]
    exact .intro signed grouped short
  · intro h
    cases h with
    | intro signed grouped short =>
      rw [Literal.takeSign_append signed grouped.startsWithout]
      exact ⟨_, readUnsigned?_eq_some_iff.2 ⟨_, grouped, short, rfl⟩, rfl⟩

end WholeLiteral

end PciInventory
