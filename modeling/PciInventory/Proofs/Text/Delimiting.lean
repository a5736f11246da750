import Mathlib.Tactic.SplitIfs
import PciInventory.Proofs.Text.Hexadecimal
import PciInventory.Text.Quoted

/-!
# Writings that tell where they end

A way of writing things delimits itself if from a text that starts with a written thing one can tell
which thing it is and where its writing ends. Things written in a row one after the other are then
known from the row, in number and in order, if none is written as nothing, and a row with a mark
behind it that no writing starts with delimits itself again.

A quoted text is such a row: it starts with the quote that ends it, and each character between is
written as itself or behind a backslash, where the next character says how many digits follow. What
the texts between the quotes hold does not matter, be it quotes, backslashes or other quoted texts.
-/
namespace PciInventory.Text

section Rows
variable {A : Type} {P : A → Prop} {write : A → Text}

/-- Of the things that `P` marks, what is written and where it ends can be told from a text that
starts with it. -/
def DelimitsItself (P : A → Prop) (write : A → Text) : Prop :=
  ∀ ⦃a b s t⦄, P a → P b → write a ++ s = write b ++ t → a = b ∧ s = t

/-- Things of which none is written as nothing are known from a row of them. -/
theorem DelimitsItself.flatMap_inj (h : DelimitsItself P write) (some : ∀ a, P a → write a ≠ [])
    {as bs : List A} (ha : ∀ a ∈ as, P a) (hb : ∀ b ∈ bs, P b)
    (same : as.flatMap write = bs.flatMap write) : as = bs := by
  induction as generalizing bs with
  | nil =>
    cases bs with
    | nil => rfl
    | cons b bs =>
      have none : write b = [] := (List.append_eq_nil_iff.1 same.symm).1
      exact absurd none (some b (hb b List.mem_cons_self))
  | cons a as ih =>
    obtain ⟨here, later⟩ := List.forall_mem_cons.1 ha
    cases bs with
    | nil =>
      have none : write a = [] := (List.append_eq_nil_iff.1 same).1
      exact absurd none (some a here)
    | cons b bs =>
      obtain ⟨here', later'⟩ := List.forall_mem_cons.1 hb
      obtain ⟨rfl, rest⟩ := h here here' same
      rw [ih later later' rest]

/-- A row with a mark behind it, which no writing starts with, delimits itself. -/
theorem DelimitsItself.closed (h : DelimitsItself P write) {mark : Char}
    (other : ∀ a, P a → ∃ c rest, write a = c :: rest ∧ c ≠ mark) :
    DelimitsItself (fun as => ∀ a ∈ as, P a) fun as : List A => as.flatMap write ++ [mark] := by
  intro as bs s t ha hb same
  simp only [List.append_assoc, List.singleton_append] at same
  induction as generalizing bs with
  | nil =>
    cases bs with
    | nil => exact ⟨rfl, (List.cons.inj same).2⟩
    | cons b bs =>
      obtain ⟨c, rest, written, apart⟩ := other b (hb b List.mem_cons_self)
      rw [List.flatMap_cons, written] at same
      exact absurd (List.cons.inj same).1.symm apart
  | cons a as ih =>
    obtain ⟨here, later⟩ := List.forall_mem_cons.1 ha
    cases bs with
    | nil =>
      obtain ⟨c, rest, written, apart⟩ := other a here
      rw [List.flatMap_cons, written] at same
      exact absurd (List.cons.inj same).1 apart
    | cons b bs =>
      obtain ⟨here', later'⟩ := List.forall_mem_cons.1 hb
      rw [List.flatMap_cons, List.flatMap_cons, List.append_assoc, List.append_assoc] at same
      obtain ⟨rfl, rest⟩ := h here here' same
      obtain ⟨rfl, ends⟩ := ih later later' rest
      exact ⟨rfl, ends⟩

end Rows

namespace Quoted
variable {quote c : Char}

def IsMark (quote : Char) : Prop := quote = '\'' ∨ quote = '"'

theorem isMark_mark (t : Text) : IsMark (mark t) := by
  unfold mark
  split
  · exact .inr rfl
  · exact .inl rfl

/-- The characters that have an escape of one character, with it. -/
def shortEscapes (quote : Char) : List (Char × Char) :=
  [(quote, quote), ('\\', '\\'), ('\n', 'n'), ('\r', 'r'), ('\t', 't')]

/-- The escapes that digits follow, with the number of digits. -/
def longEscapes : List (Char × Nat) := [('x', 2), ('u', 4), ('U', 8)]

/-- How a character is written between quotes: as itself, or behind a backslash by an escape of its
own or by the digits of its code point. -/
inductive IsWritten (quote c : Char) : Text → Prop where
  | itself (other : c ≠ quote) (plain : c ≠ '\\') : IsWritten quote c [c]
  | short {letter : Char} (escape : (c, letter) ∈ shortEscapes quote) :
      IsWritten quote c ['\\', letter]
  | long {letter : Char} {width : Nat} (escape : (letter, width) ∈ longEscapes)
      (room : c.toNat < 16 ^ width) : IsWritten quote c ('\\' :: letter :: hexDigits width c.toNat)

theorem isWritten_numbered (quote c : Char) : IsWritten quote c (numbered c.toNat) := by
  have bound : c.toNat < 0x110000 := by
    have : c.toNat < 0xD800 ∨ 0xDFFF < c.toNat ∧ c.toNat < 0x110000 := c.valid
    omega
  unfold numbered
  split_ifs with two four
  · rw [hexadecimal_eq (by decide) (by omega)]
    exact .long (by decide) (by omega)
  · rw [hexadecimal_eq (by decide) (by omega)]
    exact .long (by decide) (by omega)
  · rw [hexadecimal_eq (by decide) (by omega)]
    exact .long (by decide) (by omega)

theorem isWritten_written (quote c : Char) : IsWritten quote c (written quote c) := by
  unfold written
  split_ifs with marked feed carriage tab printable
  · rw [Bool.or_eq_true, decide_eq_true_eq, decide_eq_true_eq] at marked
    refine .short ?_
    rcases marked with rfl | rfl
    · simp [shortEscapes]
    · simp [shortEscapes]
  · subst feed
    exact .short (by simp [shortEscapes])
  · subst carriage
    exact .short (by simp [shortEscapes])
  · subst tab
    exact .short (by simp [shortEscapes])
  · rw [Bool.or_eq_true, decide_eq_true_eq, decide_eq_true_eq, not_or] at marked
    exact .itself marked.1 marked.2
  · exact isWritten_numbered quote c

/-- The letter of a short escape says which character is meant. -/
theorem shortEscapes_inj (hq : IsMark quote) {c c' letter : Char}
    (h : (c, letter) ∈ shortEscapes quote) (h' : (c', letter) ∈ shortEscapes quote) : c = c' := by
  have all : (shortEscapes quote).all (fun e => (shortEscapes quote).all fun e' =>
      decide (e.2 = e'.2 → e.1 = e'.1)) = true := by
    rcases hq with rfl | rfl <;> decide
  have one := List.all_eq_true.1 all _ h
  exact of_decide_eq_true (List.all_eq_true.1 one _ h') rfl

theorem not_mem_longEscapes (hq : IsMark quote) {letter : Char} {width : Nat}
    (h : (c, letter) ∈ shortEscapes quote) : (letter, width) ∉ longEscapes := by
  have all : (shortEscapes quote).all (fun e => longEscapes.all fun e' =>
      decide (e'.1 ≠ e.2)) = true := by
    rcases hq with rfl | rfl <;> decide
  have one := List.all_eq_true.1 all _ h
  exact fun h' => of_decide_eq_true (List.all_eq_true.1 one _ h') rfl

/-- The letter of a long escape says how many digits follow. -/
theorem longEscapes_inj {letter : Char} {width width' : Nat} (h : (letter, width) ∈ longEscapes)
    (h' : (letter, width') ∈ longEscapes) : width = width' := by
  have all : ∀ e ∈ longEscapes, ∀ e' ∈ longEscapes, e.1 = e'.1 → e.2 = e'.2 := by decide
  exact all _ h _ h' rfl

/-- From what follows an opening quote the first character is known, and where its writing ends. -/
theorem delimitsItself_written (hq : IsMark quote) :
    DelimitsItself (fun _ => True) (written quote) := by
  intro c c' s t _ _ same
  have here := isWritten_written quote c
  have there := isWritten_written quote c'
  generalize written quote c = w, written quote c' = w' at here there same
  cases here with
  | itself other plain =>
    cases there with
    | itself other' plain' => exact List.cons.inj same
    | short escape => exact absurd (List.cons.inj same).1 plain
    | long escape room => exact absurd (List.cons.inj same).1 plain
  | short escape =>
    cases there with
    | itself other plain => exact absurd (List.cons.inj same).1.symm plain
    | short escape' =>
      obtain ⟨rfl, rest⟩ := List.cons.inj (List.cons.inj same).2
      exact ⟨shortEscapes_inj hq escape escape', rest⟩
    | long escape' room =>
      obtain ⟨rfl, -⟩ := List.cons.inj (List.cons.inj same).2
      exact absurd escape' (not_mem_longEscapes hq escape)
  | long escape room =>
    cases there with
    | itself other plain => exact absurd (List.cons.inj same).1.symm plain
    | short escape' =>
      obtain ⟨rfl, -⟩ := List.cons.inj (List.cons.inj same).2
      exact absurd escape (not_mem_longEscapes hq escape')
    | long escape' room' =>
      obtain ⟨rfl, rest⟩ := List.cons.inj (List.cons.inj same).2
      cases longEscapes_inj escape escape'
      obtain ⟨digits, ends⟩ := List.append_inj rest (by rw [length_hexDigits, length_hexDigits])
      have points := hexDigits_inj digits
      rw [Nat.mod_eq_of_lt room, Nat.mod_eq_of_lt room'] at points
      exact ⟨Char.toNat_inj.1 points, ends⟩

theorem exists_written_eq (hq : IsMark quote) (c : Char) :
    ∃ first rest, written quote c = first :: rest ∧ first ≠ quote := by
  have backslash : '\\' ≠ quote := by
    rcases hq with rfl | rfl
    · decide
    · decide
  have here := isWritten_written quote c
  generalize written quote c = w at here
  cases here with
  | itself other plain => exact ⟨c, [], rfl, other⟩
  | short escape => exact ⟨_, _, rfl, backslash⟩
  | long escape room => exact ⟨_, _, rfl, backslash⟩

end Quoted

/-- A text in quotes is known from any text that starts with it, and so is where it ends. -/
theorem delimitsItself_quoted : DelimitsItself (fun _ => True) quoted := by
  intro a b s t _ _ same
  simp only [quoted, List.cons_append] at same
  obtain ⟨marks, rest⟩ := List.cons.inj same
  have hq := Quoted.isMark_mark b
  rw [marks] at rest
  have closed := (Quoted.delimitsItself_written hq).closed fun c _ => Quoted.exists_written_eq hq c
  exact closed (fun _ _ => trivial) (fun _ _ => trivial) rest

/-- A text in quotes that holds a text in quotes. -/
example : quoted (quoted "it's".toList) = "'\"it\\'s\"'".toList := by decide +kernel

end PciInventory.Text
