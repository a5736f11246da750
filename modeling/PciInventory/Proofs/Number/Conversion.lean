import PciInventory.Proofs.Number.Worth
import PciInventory.Proofs.Text.AsciiCase

/-!
# What converts to a number

Conversion to a binary64 number takes more texts than there are decimal literals: blanks may stand
around a number, single underscores between its digits, and three words are numbers too. The texts
that convert and the numbers they convert to are said here as the conversion is documented. Whatever
is matched as a decimal literal converts, to the number that the literal has.
-/
namespace PciInventory

open Text Binary64

namespace Literal

/-- A text in which a literal is found: the literal alone, or with a line end behind it, in front of
which a pattern's end counts as reached. -/
inductive Matches : Text → Literal → Prop where
  | whole {t : Text} {l : Literal} (h : Spells t l) : Matches t l
  | line {t : Text} {l : Literal} (h : Spells t l) : Matches (t ++ ['\n']) l

end Literal

/-- Each underscore of a text stands between two digits. -/
def Text.IsGrouping (t : Text) : Prop :=
  ∀ before after, t = before ++ '_' :: after →
    (∃ c, before.getLast? = some c ∧ isDigit c = true) ∧
      ∃ c, after.head? = some c ∧ isDigit c = true

/-- The words that are numbers, with what they are under a sign. -/
def specialWords (negative : Bool) : List (Text × Binary64) :=
  [("inf".toList, .infinite negative), ("infinity".toList, .infinite negative),
    ("nan".toList, .notANumber)]

/-- A text converts to a number. -/
inductive Converts : Text → Binary64 → Prop where
  | number {t core : Text} {l : Literal} {x : Binary64} (padded : Padded t core)
      (grouping : IsGrouping core) (spelled : Literal.Spells (core.filter (· != '_')) l)
      (rounded : Rounds l.negative l.worth x) : Converts t x
  | special {t sign word : Text} {negative : Bool} {x : Binary64} (padded : Padded t (sign ++ word))
      (signed : IsSign sign negative)
      (known : (word.map Char.toLower, x) ∈ specialWords negative) : Converts t x

section Unique
variable {t core sign word : Text} {negative : Bool} {x x' : Binary64}

/-- The letters of the words are neither blanks nor characters of literals. -/
theorem letters_of_special (known : (word.map Char.toLower, x) ∈ specialWords negative) :
    word ≠ [] ∧ ∀ c ∈ word, isBlank c = false ∧ isDigit c = false ∧ c ∉ '_' :: Literal.marks := by
  have letters : word.map Char.toLower ≠ [] ∧
      ∀ c ∈ word.map Char.toLower, c ∈ "infinityna".toList := by
    simp only [specialWords, List.mem_cons, List.not_mem_nil, or_false, Prod.mk.injEq] at known
    rcases known with ⟨same, -⟩ | ⟨same, -⟩ | ⟨same, -⟩
    all_goals
      rw [same]
      exact ⟨by decide, forall_mem_of_all (by decide)⟩
  have all : ∀ n < 128, (Char.ofNat n).toLower ∈ "infinityna".toList →
      isBlank (Char.ofNat n) = false ∧ isDigit (Char.ofNat n) = false ∧
        Char.ofNat n ∉ '_' :: Literal.marks := by decide +kernel
  have inside : ∀ c ∈ "infinityna".toList, IsAscii c := forall_mem_of_all (by decide)
  refine ⟨fun none => letters.1 (by rw [none]; rfl), fun c hc => ?_⟩
  have letter := letters.2 c.toLower (List.mem_map_of_mem hc)
  have ascii : IsAscii c := isAscii_of_toLower (inside _ letter)
  have here := all c.toNat ascii
  rw [Char.ofNat_toNat] at here
  exact here letter

theorem strip_of_number {l : Literal} (padded : Padded t core)
    (spelled : Literal.Spells (core.filter (· != '_')) l) : strip t = core := by
  rw [padded.strip_eq, strip_eq_self_of_forall]
  intro c hc
  by_cases underscore : c = '_'
  · rw [underscore]
    decide
  · exact spelled.visible c (List.mem_filter.2 ⟨hc, by simpa using underscore⟩)

theorem strip_of_special (padded : Padded t (sign ++ word)) (signed : IsSign sign negative)
    (known : (word.map Char.toLower, x) ∈ specialWords negative) : strip t = sign ++ word := by
  rw [padded.strip_eq, strip_eq_self_of_forall]
  intro c hc
  rcases List.mem_append.1 hc with front | back
  · have all : ∀ c ∈ Literal.marks, isBlank c = false := forall_mem_of_all (by decide)
    exact all c (Literal.mem_marks_of_isSign signed c front)
  · exact ((letters_of_special known).2 c back).1

theorem not_special_of_number {l : Literal} (spelled : Literal.Spells (core.filter (· != '_')) l)
    (known : (word.map Char.toLower, x) ∈ specialWords negative) : core ≠ sign ++ word := by
  rintro rfl
  obtain ⟨some, letters⟩ := letters_of_special known
  obtain ⟨c, rest, rfl⟩ := List.exists_cons_of_ne_nil some
  obtain ⟨-, noDigit, noMark⟩ := letters c List.mem_cons_self
  rw [List.mem_cons, not_or] at noMark
  have kept : c ∈ (sign ++ c :: rest).filter (· != '_') :=
    List.mem_filter.2 ⟨List.mem_append_right _ List.mem_cons_self, by simpa using noMark.1⟩
  rcases spelled.chars.2 c kept with digit | mark
  · rw [noDigit] at digit
    cases digit
  · exact noMark.2 mark

theorem Converts.unique (h : Converts t x) (h' : Converts t x') : x = x' := by
  cases h with
  | number padded grouping spelled rounded =>
    have core := strip_of_number padded spelled
    cases h' with
    | number padded' grouping' spelled' rounded' =>
      obtain rfl := core.symm.trans (strip_of_number padded' spelled')
      obtain rfl := spelled.unique spelled'
      exact rounded.unique rounded'
    | special padded' signed' known' =>
      have same := core.symm.trans (strip_of_special padded' signed' known')
      exact absurd same (not_special_of_number spelled known')
  | @special sign word negative _ padded signed known =>
    have core := strip_of_special padded signed known
    cases h' with
    | number padded' grouping' spelled' rounded' =>
      have same := (strip_of_number padded' spelled').symm.trans core
      exact absurd same (not_special_of_number spelled' known)
    | @special sign' word' negative' _ padded' signed' known' =>
      have unsigned {word : Text} {negative : Bool} {x : Binary64}
          (known : (word.map Char.toLower, x) ∈ specialWords negative) :
          StartsWithout isSignMark word := by
        intro c first
        have noMark := ((letters_of_special known).2 c (List.mem_of_mem_head? first)).2.2
        simp only [Literal.marks, List.mem_cons, not_or] at noMark
        simp [isSignMark, noMark.2.1, noMark.2.2.1]
      have same := core.symm.trans (strip_of_special padded' signed' known')
      have taken := Literal.takeSign_append signed (unsigned known)
      rw [same, Literal.takeSign_append signed' (unsigned known')] at taken
      obtain ⟨rfl, rfl⟩ := Prod.mk.inj taken
      have distinct : ∀ negative, ∀ entry ∈ specialWords negative,
          ∀ entry' ∈ specialWords negative, entry.1 = entry'.1 → entry.2 = entry'.2 := by decide
      exact distinct _ _ known _ known' rfl

end Unique

/-- Whatever is matched as a decimal literal converts to the number that the literal has. -/
theorem Literal.Matches.converts {t : Text} {l : Literal} (h : Literal.Matches t l) :
    Converts t l.toBinary64 := by
  have plain {d : Text} (spelled : Literal.Spells d l) :
      IsGrouping d ∧ d.filter (· != '_') = d := by
    have absent : '_' ∉ d := by
      intro underscore
      exact absurd (spelled.chars.2 '_' underscore) (by decide)
    refine ⟨?_, List.filter_eq_self.2 ?_⟩
    · rintro before after rfl
      exact absurd (List.mem_append_right _ List.mem_cons_self) absent
    · intro c hc
      simpa using ne_of_mem_of_not_mem hc absent
  have none : IsBlanks [] := nofun
  have padded {d after : Text} (blanks : IsBlanks after) : Padded (d ++ after) d :=
    .intro none blanks
  cases h with
  | whole spelled =>
    obtain ⟨grouping, same⟩ := plain spelled
    have bare : Padded (t ++ []) t := padded none
    rw [List.append_nil] at bare
    exact .number bare grouping (same.symm ▸ spelled) l.rounds_toBinary64
  | line spelled =>
    obtain ⟨grouping, same⟩ := plain spelled
    have lineEnd : IsBlanks ['\n'] := forall_mem_of_all (by decide)
    exact .number (padded lineEnd) grouping (same.symm ▸ spelled) l.rounds_toBinary64

end PciInventory
