import Mathlib.Data.List.DropRight
import PciInventory.Text.Blank
import PciInventory.Text.Lines

/-!
# Trimming texts

When trimming leaves a text as it is, what it takes off, and when nothing is left: a text of blanks
is trimmed to nothing and no other text is. A text loses a given ending or nothing. A line loses the
line ends behind it and nothing else. The words of a text have all of its characters but the blanks.
-/
namespace PciInventory.Text
variable {t : Text}

theorem trimEndBy_eq (p : Char → Bool) (t : Text) : trimEndBy p t = t.rdropWhile p := rfl

theorem strip_eq_self (first : ∀ c, t.head? = some c → isBlank c = false)
    (last : ∀ c, t.getLast? = some c → isBlank c = false) : strip t = t := by
  have front : t.dropWhile isBlank = t := by
    cases t with
    | nil => rfl
    | cons c rest => rw [List.dropWhile_cons_of_neg (by simp [first c rfl])]
  rw [strip, trimBy, front, trimEndBy_eq, List.rdropWhile_eq_self_iff]
  intro some
  simp [last _ (List.getLast?_eq_some_getLast some)]

theorem head?_strip {c : Char} (h : (strip t).head? = some c) : isBlank c = false := by
  obtain ⟨rest, kept⟩ := List.head?_eq_some_iff.1 h
  obtain ⟨behind, split⟩ := List.rdropWhile_prefix isBlank (t.dropWhile isBlank)
  have front : (t.dropWhile isBlank).head? = some c := by
    rw [← split, ← trimEndBy_eq, ← trimBy, ← strip, kept]
    rfl
  simpa [front] using List.head?_dropWhile_not isBlank t

theorem getLast?_strip {c : Char} (h : (strip t).getLast? = some c) :
    isBlank c = false := by
  have some : (t.dropWhile isBlank).rdropWhile isBlank ≠ [] := by
    rintro none
    rw [strip, trimBy, trimEndBy_eq, none] at h
    cases h
  have last := List.rdropWhile_last_not isBlank _ some
  rw [strip, trimBy, trimEndBy_eq, List.getLast?_eq_some_getLast some, Option.some.injEq] at h
  rwa [h, Bool.not_eq_true] at last

/-- Trimming never needs to be done twice. -/
theorem strip_strip (t : Text) : strip (strip t) = strip t :=
  strip_eq_self (fun _ => head?_strip) fun _ => getLast?_strip

theorem strip_eq_self_of_forall (h : ∀ c ∈ t, isBlank c = false) : strip t = t :=
  strip_eq_self (fun c hc => h c (List.mem_of_mem_head? hc))
    fun c hc => h c (List.mem_of_mem_getLast? hc)

section Ending
variable {ending : Text}

theorem dropEnding_append (ending t : Text) : dropEnding ending (t ++ ending) = t := by
  have ends : ending.isSuffixOf (t ++ ending) = true :=
    List.isSuffixOf_iff_suffix.2 (List.suffix_append t ending)
  rw [dropEnding, if_pos ends, List.length_append, Nat.add_sub_cancel, List.take_left]

/-- A text whose last character is another than that of an ending does not have the ending. -/
theorem dropEnding_eq_self {c : Char} (last : ending.getLast? = some c)
    (other : t.getLast? ≠ some c) : dropEnding ending t = t := by
  rw [dropEnding, if_neg]
  intro ends
  obtain ⟨front, rfl⟩ := List.isSuffixOf_iff_suffix.1 ends
  have some : ending ≠ [] := by
    rintro rfl
    cases last
  rw [List.getLast?_append_of_ne_nil front some] at other
  exact other last

/-- What is taken off is the ending or nothing. -/
theorem exists_dropEnding (ending t : Text) :
    ∃ taken ∈ [[], ending], t = dropEnding ending t ++ taken := by
  by_cases ends : ending.isSuffixOf t = true
  · obtain ⟨front, rfl⟩ := List.isSuffixOf_iff_suffix.1 ends
    refine ⟨ending, by simp, ?_⟩
    rw [dropEnding_append]
  · refine ⟨[], by simp, ?_⟩
    rw [dropEnding, if_neg ends, List.append_nil]

end Ending

/-- The space in front of a text is trimmed off. -/
theorem strip_space_cons (t : Text) : strip (' ' :: t) = strip t := by
  rw [strip, trimBy, List.dropWhile_cons_of_pos (by decide)]
  rfl

theorem strip_surrounded {before after : Text} (t : Text)
    (front : ∀ c ∈ before, isBlank c = true) (back : ∀ c ∈ after, isBlank c = true) :
    strip (before ++ (t ++ after)) = strip t := by
  rw [strip, strip, trimBy, trimBy, List.dropWhile_append_of_pos front, List.dropWhile_append]
  split
  · rename_i none
    rw [List.isEmpty_iff.1 none, List.dropWhile_eq_nil_iff.2 back]
  · rw [trimEndBy, List.reverse_append, List.dropWhile_append_of_pos]
    · rfl
    · intro c hc
      exact back c (List.mem_reverse.1 hc)

/-- A text of blanks. -/
def IsBlanks (t : Text) : Prop := ∀ c ∈ t, isBlank c = true

/-- A text with blanks around another. -/
inductive Padded : Text → Text → Prop where
  | intro {before t after : Text} (front : IsBlanks before) (back : IsBlanks after) :
      Padded (before ++ (t ++ after)) t

theorem Padded.strip_eq {t t' : Text} (h : Padded t t') : strip t = strip t' := by
  cases h with
  | intro front back => exact strip_surrounded t' front back

/-- Trimming takes off blanks and nothing else. -/
theorem padded_strip (t : Text) : Padded t (strip t) := by
  have back : strip t ++ (t.dropWhile isBlank).rtakeWhile isBlank = t.dropWhile isBlank :=
    List.rdropWhile_append_rtakeWhile
  have front : t.takeWhile isBlank ++ t.dropWhile isBlank = t := List.takeWhile_append_dropWhile
  have padded : Padded (t.takeWhile isBlank ++
      (strip t ++ (t.dropWhile isBlank).rtakeWhile isBlank)) (strip t) :=
    .intro (fun _ => List.mem_takeWhile_imp) fun _ => List.mem_rtakeWhile_imp
  rwa [back, front] at padded

theorem strip_eq_nil_iff : strip t = [] ↔ ∀ c ∈ t, isBlank c = true := by
  rw [strip, trimBy, trimEndBy_eq, List.rdropWhile_eq_nil_iff]
  constructor
  · intro h c hc
    by_contra visible
    have left : t.dropWhile isBlank ≠ [] := by
      intro none
      exact visible (List.dropWhile_eq_nil_iff.1 none c hc)
    have blank := h _ (List.head_mem left)
    rw [List.head_dropWhile_not isBlank left] at blank
    cases blank
  · intro h c hc
    exact h c ((List.dropWhile_sublist isBlank).subset hc)

theorem strip_ne_nil_of_mem {c : Char} (h : c ∈ t) (visible : isBlank c = false) :
    strip t ≠ [] := by
  intro none
  rw [strip_eq_nil_iff.1 none c h] at visible
  cases visible

/-- A text on one line: it has no line ends in it. -/
def IsOneLine (t : Text) : Prop := ∀ c ∈ t, c ≠ '\r' ∧ c ≠ '\n'

theorem IsOneLine.append {t' : Text} (h : IsOneLine t) (h' : IsOneLine t') :
    IsOneLine (t ++ t') := by
  intro c hc
  rcases List.mem_append.1 hc with hc | hc
  · exact h c hc
  · exact h' c hc

theorem IsOneLine.cons {c : Char} (h : IsOneLine t) (here : c ≠ '\r' ∧ c ≠ '\n') :
    IsOneLine (c :: t) := by
  intro c' hc
  rcases List.mem_cons.1 hc with rfl | hc
  · exact here
  · exact h c' hc

theorem isOneLine_of_forall_not_blank (h : ∀ c ∈ t, isBlank c = false) : IsOneLine t := by
  intro c hc
  constructor
  · rintro rfl
    cases h _ hc
  · rintro rfl
    cases h _ hc

theorem dropLineEnd_append {ending : Text} (line : IsOneLine t)
    (h : ∀ c ∈ ending, c = '\r' ∨ c = '\n') : dropLineEnd (t ++ ending) = t := by
  rw [dropLineEnd, trimEndBy, List.reverse_append,
    List.dropWhile_append_of_pos fun c hc => by simpa using h c (List.mem_reverse.1 hc),
    ← List.rdropWhile, List.rdropWhile_eq_self_iff]
  intro some
  obtain ⟨noReturn, noFeed⟩ := line _ (List.getLast_mem some)
  simp [noReturn, noFeed]

/-- What stands up to a character that ends no line is kept. -/
theorem dropLineEnd_append_cons {c : Char} (t : Text) (h : c ≠ '\r' ∧ c ≠ '\n') (rest : Text) :
    dropLineEnd (t ++ c :: rest) = t ++ c :: dropLineEnd rest := by
  rw [dropLineEnd, dropLineEnd, trimEndBy, trimEndBy, List.reverse_append, List.reverse_cons,
    List.append_assoc, List.dropWhile_append]
  split
  · rename_i none
    simp [List.isEmpty_iff.1 none, h]
  · simp

theorem dropLineEnd_prefix (t : Text) : dropLineEnd t <+: t := List.rdropWhile_prefix _ _

theorem head?_dropLineEnd {c : Char} {rest : Text} (h : c ≠ '\r' ∧ c ≠ '\n') :
    (dropLineEnd (c :: rest)).head? = some c := by
  obtain ⟨front, split⟩ := dropLineEnd_prefix (c :: rest)
  have some : dropLineEnd (c :: rest) ≠ [] := by
    intro none
    have only := List.rdropWhile_eq_nil_iff.1 none c List.mem_cons_self
    simp [h.1, h.2] at only
  obtain ⟨c', rest', kept⟩ := List.exists_cons_of_ne_nil some
  rw [kept] at split ⊢
  rw [(List.cons.inj split).1]
  rfl

theorem flatten_splitOnP (p : Char → Bool) (t : Text) :
    (t.splitOnP p).flatten = t.filter fun c => !p c := by
  induction t with
  | nil => simp
  | cons c rest ih =>
    rw [List.splitOnP_cons_eq_if_modifyHead]
    obtain ⟨first, more, split⟩ := List.exists_cons_of_ne_nil (List.splitOnP_ne_nil (p := p) rest)
    rw [split, List.flatten_cons] at ih
    by_cases h : p c = true
    · simp [h, split, ih]
    · simp [h, split, ih]

/-- The words of a text together are its characters but for the blanks. -/
theorem flatten_words (t : Text) : (words t).flatten = t.filter fun c => !isBlank c := by
  rw [words, List.flatten_filter_not_isEmpty, flatten_splitOnP]

theorem mem_of_mem_words {t word : Text} (h : word ∈ words t) :
    word ≠ [] ∧ ∀ c ∈ word, c ∈ t ∧ isBlank c = false := by
  constructor
  · have := (List.mem_filter.1 h).2
    simpa using this
  · intro c hc
    have : c ∈ (words t).flatten := List.mem_flatten.2 ⟨word, h, hc⟩
    rw [flatten_words] at this
    simpa using List.mem_filter.1 this

theorem words_ne_nil {t : Text} (h : strip t ≠ []) : words t ≠ [] := by
  intro none
  have blank := flatten_words t
  rw [none, List.flatten_nil, eq_comm, List.filter_eq_nil_iff] at blank
  refine h (strip_eq_nil_iff.2 ?_)
  intro c hc
  simpa using blank c hc

/-- What joined texts have in them comes of one of them, or of what they are joined with. -/
theorem mem_of_mem_joinWith {separator : Text} {ts : List Text} {c : Char}
    (h : c ∈ joinWith separator ts) : c ∈ separator ∨ ∃ t ∈ ts, c ∈ t := by
  rw [joinWith] at h
  induction ts with
  | nil => cases h
  | cons t ts ih =>
    cases ts with
    | nil => exact .inr ⟨t, by simp, by simpa using h⟩
    | cons t' ts =>
      rw [List.intercalate_cons_cons, List.append_assoc, List.mem_append, List.mem_append] at h
      rcases h with h | h | h
      · exact .inr ⟨t, by simp, h⟩
      · exact .inl h
      · rcases ih h with h | ⟨t'', member, h⟩
        · exact .inl h
        · exact .inr ⟨t'', List.mem_cons_of_mem t member, h⟩

theorem words_pair {a b : Text} (ha : ∀ c ∈ a, isBlank c = false) (hb : ∀ c ∈ b, isBlank c = false)
    (someA : a ≠ []) (someB : b ≠ []) : words (a ++ ' ' :: b) = [a, b] := by
  rw [words, List.splitOnP_append_cons_of_forall_mem ha ' ' (by decide),
    List.splitOnP_eq_singleton hb]
  simp [someA, someB]

/-- Of two ways to part a list at a value, of which the first has it nowhere in front, the second is
the same or parts further behind. -/
theorem parted_cases {α : Type} {x y front back : List α} {a : α}
    (h : x ++ a :: y = front ++ a :: back) (fresh : a ∉ x) :
    (front = x ∧ back = y) ∨ ∃ more, front = x ++ a :: more ∧ y = more ++ a :: back := by
  rcases List.append_eq_append_iff.1 h with ⟨more, hf, hr⟩ | ⟨more, hf, hr⟩
  · cases more with
    | nil => exact .inl ⟨by rw [hf, List.append_nil], (List.cons.inj hr).2.symm⟩
    | cons a' more =>
      obtain ⟨rfl, later⟩ := List.cons.inj hr
      exact .inr ⟨more, hf, later⟩
  · cases more with
    | nil => exact .inl ⟨by rw [hf, List.append_nil], (List.cons.inj hr).2⟩
    | cons a' more =>
      obtain ⟨rfl, -⟩ := List.cons.inj hr
      exact absurd (by simp [hf]) fresh

end PciInventory.Text
