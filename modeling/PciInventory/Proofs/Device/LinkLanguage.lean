import PciInventory.Device.LinkValue
import PciInventory.Proofs.Number.Value
import PciInventory.Proofs.Number.Worth
import PciInventory.Proofs.Text.AsciiCase

/-!
# The languages of link attributes

Which texts are speeds, widths, power states and flags, said by their parts and apart from the
readers, and the number that each of them stands for. Each reader accepts the texts of its language
and no others. A text that it refuses is told as it was.
-/
namespace PciInventory

open Text Binary64

namespace Literal
variable {t d : Text} {l : Literal}

theorem spells_strip_iff : Spells (strip t) l ↔ ∃ d, Padded t d ∧ Spells d l := by
  constructor
  · intro h
    exact ⟨strip t, padded_strip t, h⟩
  · rintro ⟨d, padded, h⟩
    rwa [padded.strip_eq, strip_eq_self_of_forall h.visible]

/-- With blanks around it, a literal has no character but digits, blanks and its own few marks. -/
theorem Spells.padded_chars (h : Spells d l) (padded : Padded t d) {c : Char} (hc : c ∈ t) :
    isBlank c = true ∨ isDigit c = true ∨ c ∈ marks := by
  cases padded with
  | intro front back =>
    rcases List.mem_append.1 hc with before | rest
    · exact .inl (front c before)
    · rcases List.mem_append.1 rest with inside | after
      · exact .inr (h.chars.2 c inside)
      · exact .inl (back c after)

/-- With blanks around it, a literal ends with a blank, a digit or a point. -/
theorem Spells.padded_last (h : Spells d l) (padded : Padded t d) {c : Char}
    (hc : t.getLast? = some c) : isBlank c = true ∨ isDigit c = true ∨ c = '.' := by
  cases padded with
  | @intro before _ after front back =>
    rw [List.getLast?_append_of_ne_nil _ (by simp [h.chars.1])] at hc
    by_cases none : after = []
    · rw [none, List.append_nil] at hc
      exact .inr (h.last hc)
    · rw [List.getLast?_append_of_ne_nil _ none] at hc
      exact .inl (back c (List.mem_of_getLast? hc))

end Literal

section Quantity
variable {quantity : Quantity} {raw t : Text}

theorem readQuantity_eq_ok_iff {x : Binary64} : readQuantity quantity raw t = .ok x ↔
    ∃ l, Literal.Spells t l ∧ Rounds l.negative l.worth x ∧ x.isFinite = true := by
  constructor
  · intro h
    unfold readQuantity at h
    split at h
    · cases h
    · rename_i l read
      split at h
      · rename_i finite
        cases h
        exact ⟨l, Literal.read?_eq_some_iff_spells.1 read, l.rounds_toBinary64, finite⟩
      · cases h
  · rintro ⟨l, spelled, rounded, finite⟩
    obtain rfl := rounded.unique l.rounds_toBinary64
    simp only [readQuantity, Literal.read?_eq_some_iff_spells.2 spelled, if_pos finite]

theorem value_of_readQuantity {e : ParseError} (h : readQuantity quantity raw t = .error e) :
    e.value = raw := by
  unfold readQuantity at h
  split at h
  · cases h
    rfl
  · split at h
    · cases h
    · cases h
      rfl

end Quantity

/-- A reader of the quantities that the texts of a language tell, each by the literal in it. -/
structure ReadsLiterals (language : Text → Literal → Prop)
    (parse : Text → Except ParseError Binary64) : Prop where
  /-- What is read is the literal's number, if that is finite; other texts are refused. -/
  accepts : ∀ raw x, parse raw = .ok x ↔
    ∃ l, language raw l ∧ Rounds l.negative l.worth x ∧ x.isFinite = true
  /-- In whichever way a text is taken apart, the literal is the same. -/
  unambiguous : ∀ raw l l', language raw l → language raw l' → l = l'
  /-- A refused text is told as it was. -/
  refuses : ∀ raw e, parse raw = .error e → e.value = raw

/-- A reader that first cuts a text down to a literal reads the texts that are cut down to one. -/
theorem readsLiterals_of_core {language : Text → Literal → Prop} {core : Text → Text}
    (quantity : Quantity) (cut : ∀ raw l, Literal.Spells (core raw) l ↔ language raw l) :
    ReadsLiterals language fun raw => readQuantity quantity raw (core raw) where
  accepts := by
    intro raw x
    simp only [readQuantity_eq_ok_iff, cut]
  unambiguous := by
    intro raw l l' h h'
    exact ((cut raw l).2 h).unique ((cut raw l').2 h')
  refuses := fun _ _ => value_of_readQuantity

def speedUnits : List Text :=
  ["".toList, " GT/s".toList, " GT/s PCIe".toList, " GT/s GT/s PCIe".toList]

/-- A text is a link speed: a literal with blanks around it and a unit behind. -/
inductive SpeedText : Text → Literal → Prop where
  | intro {t d unit : Text} {l : Literal} (padded : Padded t d) (spelled : Literal.Spells d l)
      (known : unit ∈ speedUnits) : SpeedText (t ++ unit) l

/-- A text is a link width: a literal with blanks around it, and perhaps one `x` in front. -/
inductive WidthText : Text → Literal → Prop where
  | intro {mark t d : Text} {l : Literal} (known : mark ∈ ["".toList, "x".toList])
      (padded : Padded t d) (spelled : Literal.Spells d l) : WidthText (mark ++ t) l

/-- A speed without its unit, of which the longer one is taken off first. -/
def dropUnits (raw : Text) : Text := dropEnding speedUnit (dropEnding busSpeedUnit raw)

theorem exists_dropUnits (raw : Text) : ∃ unit ∈ speedUnits, raw = dropUnits raw ++ unit := by
  obtain ⟨bus, hb, first⟩ := exists_dropEnding busSpeedUnit raw
  obtain ⟨unit, hu, second⟩ := exists_dropEnding speedUnit (dropEnding busSpeedUnit raw)
  have known : unit ++ bus ∈ speedUnits := by
    simp only [List.mem_cons, List.not_mem_nil, or_false] at hb hu
    rcases hb with rfl | rfl
    · rcases hu with rfl | rfl
      · decide
      · decide
    · rcases hu with rfl | rfl
      · decide
      · decide
  refine ⟨unit ++ bus, known, ?_⟩
  rw [← List.append_assoc, dropUnits, ← second, ← first]

/-- A unit is taken off a text that ends with neither of the letters that units end with. -/
theorem dropUnits_append {t unit : Text} (noS : t.getLast? ≠ some 's')
    (noE : t.getLast? ≠ some 'e') (known : unit ∈ speedUnits) : dropUnits (t ++ unit) = t := by
  have bare : dropEnding speedUnit t = t := dropEnding_eq_self (by rfl) noS
  have noBus : dropEnding busSpeedUnit t = t := dropEnding_eq_self (by rfl) noE
  have once : dropEnding busSpeedUnit (t ++ speedUnit) = t ++ speedUnit := by
    have last : (t ++ speedUnit).getLast? = some 's' :=
      List.getLast?_append_of_ne_nil t (List.cons_ne_nil _ _)
    refine dropEnding_eq_self (c := 'e') (by rfl) ?_
    rw [last]
    decide
  unfold dropUnits
  simp only [speedUnits, List.mem_cons, List.not_mem_nil, or_false] at known
  rcases known with rfl | rfl | rfl | rfl
  · rw [show t ++ "".toList = t from List.append_nil t, noBus, bare]
  · exact (congrArg _ once).trans (dropEnding_append speedUnit t)
  · exact (congrArg _ (dropEnding_append busSpeedUnit t)).trans bare
  · have both : " GT/s GT/s PCIe".toList = speedUnit ++ busSpeedUnit := by decide
    rw [both, ← List.append_assoc, dropEnding_append, dropEnding_append]

theorem spells_speed_iff {raw : Text} {l : Literal} :
    Literal.Spells (strip (dropUnits raw)) l ↔ SpeedText raw l := by
  rw [Literal.spells_strip_iff]
  constructor
  · rintro ⟨d, padded, spelled⟩
    obtain ⟨unit, known, parted⟩ := exists_dropUnits raw
    rw [parted]
    exact .intro padded spelled known
  · intro h
    cases h with
    | @intro t d unit _ padded spelled known =>
      have noS : t.getLast? ≠ some 's' := fun s =>
        absurd (spelled.padded_last padded s) (by decide)
      have noE : t.getLast? ≠ some 'e' := fun e =>
        absurd (spelled.padded_last padded e) (by decide)
      rw [dropUnits_append noS noE known]
      exact ⟨d, padded, spelled⟩

/-- The mark is taken off a width. -/
theorem spells_width_iff {raw : Text} {l : Literal} :
    Literal.Spells (strip (dropTimes raw)) l ↔ WidthText raw l := by
  rw [Literal.spells_strip_iff]
  constructor
  · rintro ⟨d, padded, spelled⟩
    unfold dropTimes at padded
    split at padded
    · have known : "x".toList ∈ ["".toList, "x".toList] := by decide
      exact .intro known padded spelled
    · have known : "".toList ∈ ["".toList, "x".toList] := by decide
      exact .intro known padded spelled
  · intro h
    cases h with
    | @intro mark t d _ known padded spelled =>
      simp only [List.mem_cons, List.not_mem_nil, or_false] at known
      rcases known with rfl | rfl
      · have unmarked : dropTimes t = t := by
          unfold dropTimes
          split
          · exact absurd (spelled.padded_chars padded List.mem_cons_self) (by decide)
          · rfl
        exact ⟨d, unmarked.symm ▸ padded, spelled⟩
      · exact ⟨d, padded, spelled⟩

theorem readsLiterals_parseSpeed : ReadsLiterals SpeedText parseSpeed :=
  readsLiterals_of_core .linkSpeed fun _ _ => spells_speed_iff

theorem readsLiterals_parseWidth : ReadsLiterals WidthText parseWidth :=
  readsLiterals_of_core .linkWidth fun _ _ => spells_width_iff

/-- Link speeds and link widths are read from the texts of their languages, as the numbers of the
literals in them, and from no other texts. -/
theorem speed_and_width_readLiterals :
    ReadsLiterals SpeedText parseSpeed ∧ ReadsLiterals WidthText parseWidth :=
  ⟨readsLiterals_parseSpeed, readsLiterals_parseWidth⟩

/-- A text is a literal of one of some whole numbers, which is what its number comes to. -/
inductive NumberText (ns : List Int) (t : Text) (x : Binary64) : Prop where
  | intro {l : Literal} {n : Int} (spelled : Literal.Spells t l)
      (rounded : Rounds l.negative l.worth x) (known : n ∈ ns) (same : x.value? = some (n : ℚ))

/-- The words for the power states and their numbers. -/
def stateWords : List (Text × Nat) :=
  [("d0".toList, 0), ("d1".toList, 1), ("d2".toList, 2), ("d3hot".toList, 3), ("d3cold".toList, 4)]

/-- A text is the word for a power state, with ASCII letters of either case. -/
inductive StateWordText (t : Text) (x : Binary64) : Prop where
  | intro {word : Text} {n : Nat} (known : (word, n) ∈ stateWords)
      (cased : t.map Char.toLower = word) (rounded : Rounds false n x)

/-- A reader of the texts that are in a language once they are trimmed. -/
structure ReadsTrimmed (language : Text → Binary64 → Prop)
    (parse : Text → Except ParseError Binary64) : Prop where
  accepts : ∀ raw x, parse raw = .ok x ↔ language (strip raw) x
  /-- A refused text is told as it was. -/
  refuses : ∀ raw e, parse raw = .error e → e.value = raw
  /-- Apart from that, the blanks around a text do not matter. -/
  trimmed : ∀ raw raw', strip raw = strip raw' →
    (parse raw).mapError (·.cause) = (parse raw').mapError (·.cause)

/-- What a literal stands for is compared with whole numbers by its value. -/
theorem any_equals_iff {ns : List Int} {x : Binary64} (hx : x.Canonical)
    (small : ∀ n ∈ ns, n.natAbs < 2 ^ 53) :
    (ns.any fun n => x.equals (.ofInt n)) = true ↔ ∃ n ∈ ns, x.value? = some (n : ℚ) := by
  rw [List.any_eq_true]
  constructor
  · rintro ⟨n, known, equal⟩
    exact ⟨n, known, (equals_ofInt_iff hx (small n known)).1 equal⟩
  · rintro ⟨n, known, same⟩
    exact ⟨n, known, (equals_ofInt_iff hx (small n known)).2 same⟩

theorem powerWord?_eq_some_iff {t : Text} {n : Nat} :
    powerWord? t = some n ↔ (t, n) ∈ stateWords := by
  constructor
  · intro h
    simp only [powerWord?] at h
    split at h
    · rename_i found
      have known : t ∈ powerWords := List.idxOf_lt_length_iff.1 found
      cases h
      simp only [powerWords, List.mem_cons, List.not_mem_nil, or_false] at known
      rcases known with rfl | rfl | rfl | rfl | rfl
      all_goals decide
    · cases h
  · intro known
    simp only [stateWords, List.mem_cons, List.not_mem_nil, or_false, Prod.mk.injEq] at known
    rcases known with ⟨rfl, rfl⟩ | ⟨rfl, rfl⟩ | ⟨rfl, rfl⟩ | ⟨rfl, rfl⟩ | ⟨rfl, rfl⟩
    all_goals decide

theorem rounds_natCast_iff {n : Nat} {x : Binary64} : Rounds false n x ↔ x = .ofInt n := by
  have rounded : Rounds false n (.ofInt n) := by
    have here := rounds_ofInt n
    rwa [Int.natAbs_natCast, decide_eq_false (by omega)] at here
  constructor
  · intro h
    exact h.unique rounded
  · rintro rfl
    exact rounded

/-- Full case mapping makes a word of the texts that ASCII case makes one. -/
theorem powerWord?_lower_iff {t : Text} {n : Nat} : powerWord? (lower t) = some n ↔
    ∃ word, (word, n) ∈ stateWords ∧ t.map Char.toLower = word := by
  have plain : ∀ entry ∈ stateWords,
      entry.1.all (fun d => decide (IsAscii d ∧ d ≠ 'i' ∧ d ≠ 'k')) = true := by decide
  rw [powerWord?_eq_some_iff]
  constructor
  · intro known
    exact ⟨lower t, known, (lower_eq_iff (forall_mem_of_all (plain _ known))).1 rfl⟩
  · rintro ⟨word, known, cased⟩
    rwa [(lower_eq_iff (forall_mem_of_all (plain _ known))).2 cased]

theorem isAscii_of_powerWord {t : Text} (h : lower t ∈ powerWords) : ∀ c ∈ t, IsAscii c := by
  have plain : ∀ word ∈ powerWords,
      word.all (fun d => decide (IsAscii d ∧ d ≠ 'i' ∧ d ≠ 'k')) = true := by decide
  exact isAscii_of_lower (forall_mem_of_all (plain _ h))

theorem Literal.Spells.not_word {t : Text} {l : Literal} {x : Binary64} (h : Literal.Spells t l) :
    ¬ StateWordText t x := by
  rintro ⟨known, cased, -⟩
  obtain ⟨c, rest, rfl⟩ := List.exists_cons_of_ne_nil h.chars.1
  have first : ∀ entry ∈ stateWords, entry.1.head? = some 'd' := by decide
  have letter : c.toLower = 'd' := by
    have here := first _ known
    rw [← cased] at here
    exact Option.some.inj here
  have all : ∀ n < 128, (Char.ofNat n).toLower = 'd' →
      ¬ (isDigit (Char.ofNat n) = true ∨ Char.ofNat n ∈ Literal.marks) := by decide +kernel
  have inside : IsAscii c := isAscii_of_toLower (letter ▸ by decide)
  have none := all c.toNat inside
  rw [Char.ofNat_toNat] at none
  exact none letter (h.chars.2 c List.mem_cons_self)

/-- What is read from a literal is one of some whole numbers if it is equal to one. -/
theorem Literal.Spells.numberText_iff {t : Text} {l : Literal} {x : Binary64} {ns : List Int}
    (h : Literal.Spells t l) (small : ∀ n ∈ ns, n.natAbs < 2 ^ 53) : NumberText ns t x ↔
      x = l.toBinary64 ∧ (ns.any fun n => l.toBinary64.equals (.ofInt n)) = true := by
  have rounded := l.rounds_toBinary64
  rw [any_equals_iff rounded.canonical small]
  constructor
  · rintro ⟨spelled, rounded', known, same⟩
    obtain rfl := h.unique spelled
    obtain rfl := rounded'.unique rounded
    exact ⟨rfl, _, known, same⟩
  · rintro ⟨rfl, n, known, same⟩
    exact .intro h rounded known same

theorem readsTrimmed_parsePowerState : ReadsTrimmed
    (fun t x => NumberText [0, 1, 2, 3, 4] t x ∨ StateWordText t x) parsePowerState where
  accepts := by
    intro raw x
    cases read : Literal.read? (strip raw) with
    | none =>
      simp only [parsePowerState, read]
      constructor
      · intro h
        split at h
        · rename_i n word
          cases h
          obtain ⟨_, known, cased⟩ := powerWord?_lower_iff.1 word
          exact .inr (.intro known cased (rounds_natCast_iff.2 rfl))
        · cases h
      · rintro (⟨spelled, -, -, -⟩ | ⟨known, cased, rounded⟩)
        · rw [Literal.read?_eq_some_iff_spells.2 spelled] at read
          cases read
        · rw [powerWord?_lower_iff.2 ⟨_, known, cased⟩, rounds_natCast_iff.1 rounded]
    | some l =>
      have spelled := Literal.read?_eq_some_iff_spells.1 read
      have small : ∀ n ∈ ([0, 1, 2, 3, 4] : List Int), n.natAbs < 2 ^ 53 := by decide
      simp only [parsePowerState, read]
      rw [or_iff_left spelled.not_word, spelled.numberText_iff small]
      constructor
      · intro h
        split at h
        · rename_i among
          cases h
          exact ⟨rfl, among⟩
        · cases h
      · rintro ⟨rfl, among⟩
        rw [if_pos among]
  refuses := by
    intro raw e h
    simp only [parsePowerState] at h
    split at h
    · split at h
      · cases h
      · cases h
        rfl
    · split at h
      · cases h
      · cases h
        rfl
  trimmed := by
    intro raw raw' same
    simp only [parsePowerState, same]
    split
    · split
      · rfl
      · rfl
    · split
      · rfl
      · rfl

theorem readsTrimmed_parseFlag : ReadsTrimmed (NumberText [0, 1]) parseFlag where
  accepts := by
    intro raw x
    constructor
    · intro h
      unfold parseFlag at h
      split at h
      · cases h
      · rename_i y quantity
        obtain ⟨l, spelled, rounded, -⟩ := readQuantity_eq_ok_iff.1 quantity
        obtain rfl := rounded.unique l.rounds_toBinary64
        split at h
        · rename_i among
          cases h
          exact (spelled.numberText_iff (by decide)).2 ⟨rfl, among⟩
        · cases h
    · rintro ⟨spelled, rounded, known, same⟩
      have finite : x.isFinite = true := by
        cases x with
        | finite negative m e => rfl
        | infinite negative => cases same
        | notANumber => cases same
      have small : ∀ n ∈ ([0, 1] : List Int), n.natAbs < 2 ^ 53 := by decide
      have among := (any_equals_iff rounded.canonical small).2 ⟨_, known, same⟩
      simp only [parseFlag, readQuantity_eq_ok_iff.2 ⟨_, spelled, rounded, finite⟩, if_pos among]
  refuses := by
    intro raw e h
    unfold parseFlag at h
    split at h
    · rename_i e' refused
      cases h
      exact value_of_readQuantity refused
    · split at h
      · cases h
      · cases h
        rfl
  trimmed := by
    intro raw raw' same
    simp only [parseFlag, readQuantity, same]
    cases Literal.read? (strip raw') with
    | none => rfl
    | some l =>
      by_cases finite : l.toBinary64.isFinite = true
      · simp only [if_pos finite]
        split
        · rfl
        · rfl
      · simp only [if_neg finite]
        rfl

/-- Power states and flags are read from the texts that, once trimmed, are in their languages, and
from no other texts. No text is both a literal and a word, and full case mapping makes no word of a
text that has a character from outside of ASCII. -/
theorem powerState_and_flag_readTrimmed :
    ReadsTrimmed (fun t x => NumberText [0, 1, 2, 3, 4] t x ∨ StateWordText t x) parsePowerState ∧
      ReadsTrimmed (NumberText [0, 1]) parseFlag ∧
      (∀ t l x, Literal.Spells t l → ¬ StateWordText t x) ∧
      ∀ t, lower t ∈ powerWords → ∀ c ∈ t, IsAscii c :=
  ⟨readsTrimmed_parsePowerState, readsTrimmed_parseFlag, fun _ _ _ spelled => spelled.not_word,
    fun _ => isAscii_of_powerWord⟩

end PciInventory
