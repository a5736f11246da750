import PciInventory.Proofs.Text.Hexadecimal
import PciInventory.Proofs.Text.Trimming
import PciInventory.Text.Case

/-!
# Lower case stays

Lower-casing has nothing left to do on a text that it has made: no character of such a text is a
capital sigma, and each of them is its own lower case. Nor does it touch the blanks around a text,
since no letter becomes a blank. So a text that is trimmed first and lower-cased then is trimmed and
in lower case, and each of its words is in lower case too.

Both facts rest on the table of letters, which is checked run by run.
-/
namespace PciInventory.Text

namespace Case

/-- A character that lower-casing keeps, wherever it stands. -/
def IsLower (c : Char) : Prop := c ≠ 'Σ' ∧ lowerOf c = [c]

/-- The other case of a point of a run. -/
def Run.shifted (r : Run) (n : Nat) : Nat := ((n : Int) + r.shift).toNat

/-- Whether no point from `a` to `b` is in a run: the run lies apart, or the points go by twos, as
the run does, and fall between its letters. -/
def Run.isClearOf (a b : Nat) (byTwos : Bool) (r : Run) : Bool :=
  Nat.blt b r.first || Nat.blt r.last a ||
    (byTwos && Nat.beq r.stride 2 && Nat.beq ((a + r.first) % 2) 1)

/-- Whether the letters of a run become characters that are in no run and are no blanks. -/
def Run.isSettled (r : Run) : Bool :=
  let a := r.shifted r.first
  let b := r.shifted r.last
  Nat.blt 0 a && (Nat.blt b 0xD800 || (Nat.blt 0xDFFF a && Nat.blt b 0x110000)) &&
    (Nat.blt b 0x130 || Nat.blt 0x130 a) &&
    lowerRuns.all (Run.isClearOf a b (Nat.beq r.stride 2 || Nat.beq r.first r.last)) &&
    blankSpans.all fun span => Nat.blt b span.1 || Nat.blt span.2 a

theorem all_isSettled : lowerRuns.all Run.isSettled = true := by decide +kernel

theorem Run.holds_iff {r : Run} {n : Nat} :
    r.holds n = true ↔ r.first ≤ n ∧ n ≤ r.last ∧ (n - r.first) % r.stride = 0 := by
  simp [holds, and_assoc]

/-- What a letter of a run becomes is a character, in no run and no blank. -/
theorem settled_of_holds {r : Run} (hr : r ∈ lowerRuns) {n : Nat} (h : r.holds n = true) :
    (r.shifted n).isValidChar ∧ r.shifted n ≠ 0x130 ∧
      (∀ r' ∈ lowerRuns, r'.holds (r.shifted n) = false) ∧
      blankSpans.contains (r.shifted n) = false := by
  have settled := List.all_eq_true.1 all_isSettled r hr
  simp only [Run.isSettled, Bool.and_eq_true, Bool.or_eq_true, Nat.blt_eq, List.all_eq_true]
    at settled
  obtain ⟨⟨⟨⟨positive, valid⟩, undotted⟩, clear⟩, visible⟩ := settled
  obtain ⟨low, high, onStride⟩ := Run.holds_iff.1 h
  -- The letters of a run all move by the same amount, so what they become lies as they do.
  obtain ⟨from_first, to_last⟩ : r.shifted n = r.shifted r.first + (n - r.first) ∧
      r.shifted n ≤ r.shifted r.last := by
    unfold Run.shifted at *
    omega
  refine ⟨?_, by omega, ?_, ?_⟩
  · rcases valid with below | ⟨above, inside⟩
    · exact .inl (by omega)
    · exact .inr ⟨by omega, by omega⟩
  · intro r' hr'
    rw [Bool.eq_false_iff]
    intro inside
    obtain ⟨low', high', onStride'⟩ := Run.holds_iff.1 inside
    have here := clear r' hr'
    simp only [Run.isClearOf, Bool.or_eq_true, Nat.blt_eq, Bool.and_eq_true, Nat.beq_eq]
      at here
    rcases here with apart | ⟨⟨byTwos, twos⟩, odd⟩
    · omega
    · rw [twos] at onStride'
      have even : (n - r.first) % 2 = 0 := by
        rcases byTwos with two | one
        · rwa [two] at onStride
        · omega
      omega
  · rw [Bool.eq_false_iff, ne_eq, Spans.contains_iff]
    rintro ⟨span, hs, inside⟩
    have := visible span hs
    omega

theorem toNat_ofNat {n : Nat} (h : n.isValidChar) : (Char.ofNat n).toNat = n := by
  rw [Char.ofNat, dif_pos h]
  rfl

theorem lowerOf_eq_self {c : Char} (dotted : c.toNat ≠ 0x130)
    (outside : ∀ r ∈ lowerRuns, r.holds c.toNat = false) : lowerOf c = [c] := by
  have none : lowerRuns.find? (·.holds c.toNat) = none := by
    rw [List.find?_eq_none]
    intro r hr
    simp [outside r hr]
  have other : c ≠ '\u0130' := by
    rintro rfl
    exact dotted rfl
  rw [lowerOf, if_neg other, shiftBy, none, Char.ofNat_toNat]

/-- A character is its own lower case, or it has one that the table or the one exception gives. -/
theorem mem_lowerOf_cases {c d : Char} (h : d ∈ lowerOf c) :
    (lowerOf c = [c] ∧ d = c) ∨ (d = 'i' ∨ d = '\u0307') ∨
      ∃ r ∈ lowerRuns, r.holds c.toNat = true ∧ d = Char.ofNat (r.shifted c.toNat) := by
  by_cases dotted : c = '\u0130'
  · subst dotted
    exact .inr (.inl (by simpa [lowerOf] using h))
  · have lower : lowerOf c = [Char.ofNat (shiftBy lowerRuns c.toNat)] := by
      rw [lowerOf, if_neg dotted]
    rw [lower, List.mem_singleton] at h
    cases found : lowerRuns.find? (·.holds c.toNat) with
    | none =>
      rw [shiftBy, found, Char.ofNat_toNat] at lower h
      exact .inl ⟨lower, h⟩
    | some r =>
      rw [shiftBy, found] at h
      have held := List.find?_some found
      exact .inr (.inr ⟨r, List.mem_of_find?_eq_some found, held, h⟩)

theorem exists_run_sigma : ∃ r ∈ lowerRuns, r.holds 'Σ'.toNat = true :=
  List.any_eq_true.1 (by decide +kernel)

/-- Of what a character becomes, every character stays. -/
theorem isLower_of_mem_lowerOf {c d : Char} (h : d ∈ lowerOf c) (noSigma : c ≠ 'Σ') :
    IsLower d := by
  rcases mem_lowerOf_cases h with ⟨same, rfl⟩ | (rfl | rfl) | ⟨r, hr, held, rfl⟩
  · exact ⟨noSigma, same⟩
  · exact ⟨by decide, by decide⟩
  · exact ⟨by decide, by decide⟩
  · obtain ⟨valid, undotted, outside, -⟩ := settled_of_holds hr held
    rw [← toNat_ofNat valid] at undotted outside
    refine ⟨?_, lowerOf_eq_self undotted outside⟩
    intro isSigma
    obtain ⟨r', hr', held'⟩ := exists_run_sigma
    rw [← isSigma, outside r' hr'] at held'
    cases held'

/-- No blank comes from a character that is none. -/
theorem isBlank_of_mem_lowerOf {c d : Char} (h : d ∈ lowerOf c) (visible : isBlank c = false) :
    isBlank d = false := by
  rcases mem_lowerOf_cases h with ⟨-, rfl⟩ | (rfl | rfl) | ⟨r, hr, held, rfl⟩
  · exact visible
  · decide
  · decide
  · obtain ⟨valid, -, -, seen⟩ := settled_of_holds hr held
    rwa [isBlank, toNat_ofNat valid]

def Becomes (c d : Char) : Prop :=
  (c = 'Σ' ∧ (d = 'ς' ∨ d = 'σ')) ∨ (c ≠ 'Σ' ∧ d ∈ lowerOf c)

theorem Becomes.isLower {c d : Char} (h : Becomes c d) : IsLower d := by
  rcases h with ⟨-, rfl | rfl⟩ | ⟨noSigma, h⟩
  · exact ⟨by decide, by decide⟩
  · exact ⟨by decide, by decide⟩
  · exact isLower_of_mem_lowerOf h noSigma

theorem Becomes.isBlank {c d : Char} (h : Becomes c d) (visible : isBlank c = false) :
    isBlank d = false := by
  rcases h with ⟨-, rfl | rfl⟩ | ⟨-, h⟩
  · decide
  · decide
  · exact isBlank_of_mem_lowerOf h visible

theorem lowerOf_ne_nil (c : Char) : lowerOf c ≠ [] := by
  unfold lowerOf
  split <;> simp

/-- The first character becomes some characters, and the others are lower-cased behind it. -/
theorem lowerFrom_cons (before : Text) (c : Char) (rest : Text) :
    ∃ front, front ≠ [] ∧ (∀ d ∈ front, Becomes c d) ∧
      lowerFrom before (c :: rest) = front ++ lowerFrom (c :: before) rest := by
  refine ⟨_, ?_, ?_, rfl⟩
  · split
    · simp
    · exact lowerOf_ne_nil c
  · intro d hd
    split at hd
    · rename_i isSigma
      rw [List.mem_singleton, sigma] at hd
      split at hd
      · exact .inl ⟨isSigma, .inl hd⟩
      · exact .inl ⟨isSigma, .inr hd⟩
    · rename_i noSigma
      exact .inr ⟨noSigma, hd⟩

theorem mem_lowerFrom {d : Char} {t before : Text} (h : d ∈ lowerFrom before t) :
    ∃ c ∈ t, Becomes c d := by
  induction t generalizing before with
  | nil => cases h
  | cons c rest ih =>
    obtain ⟨front, -, become, split⟩ := lowerFrom_cons before c rest
    rw [split] at h
    rcases List.mem_append.1 h with h | h
    · exact ⟨c, List.mem_cons_self, become d h⟩
    · obtain ⟨c', hc', become⟩ := ih h
      exact ⟨c', List.mem_cons_of_mem c hc', become⟩

theorem head?_lowerFrom {d : Char} {t before : Text} (h : (lowerFrom before t).head? = some d) :
    ∃ c, t.head? = some c ∧ Becomes c d := by
  cases t with
  | nil => cases h
  | cons c rest =>
    obtain ⟨front, some, become, split⟩ := lowerFrom_cons before c rest
    rw [split, List.head?_append_of_ne_nil _ some] at h
    exact ⟨c, rfl, become d (List.mem_of_mem_head? h)⟩

theorem getLast?_lowerFrom {d : Char} {t before : Text}
    (h : (lowerFrom before t).getLast? = some d) : ∃ c, t.getLast? = some c ∧ Becomes c d := by
  induction t generalizing before with
  | nil => cases h
  | cons c rest ih =>
    obtain ⟨front, some, become, split⟩ := lowerFrom_cons before c rest
    rw [split] at h
    cases rest with
    | nil =>
      rw [lowerFrom, List.append_nil] at h
      exact ⟨c, rfl, become d (List.mem_of_getLast? h)⟩
    | cons c' rest =>
      obtain ⟨front', some', -, split'⟩ := lowerFrom_cons (c :: before) c' rest
      rw [List.getLast?_append_of_ne_nil _ (by simp [split', some'])] at h
      obtain ⟨last, hl, become⟩ := ih h
      exact ⟨last, by rw [List.getLast?_cons_cons]; exact hl, become⟩

end Case

/-- Every character of a lower-cased text stays under lower-casing. -/
theorem isLower_of_mem_lower {t : Text} {d : Char} (h : d ∈ lower t) : Case.IsLower d := by
  obtain ⟨c, -, become⟩ := Case.mem_lowerFrom h
  exact become.isLower

theorem lower_lower (t : Text) : lower (lower t) = lower t :=
  lower_eq_self fun _ => isLower_of_mem_lower

theorem strip_lower {t : Text} (trimmed : strip t = t) : strip (lower t) = lower t := by
  refine strip_eq_self ?_ ?_
  · intro d hd
    obtain ⟨c, hc, become⟩ := Case.head?_lowerFrom hd
    exact become.isBlank (head?_strip (trimmed.symm ▸ hc))
  · intro d hd
    obtain ⟨c, hc, become⟩ := Case.getLast?_lowerFrom hd
    exact become.isBlank (getLast?_strip (trimmed.symm ▸ hc))

end PciInventory.Text
