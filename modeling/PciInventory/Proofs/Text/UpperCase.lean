import Mathlib.Data.List.Forall2
import PciInventory.Proofs.Text.Decoding
import PciInventory.Proofs.Text.Lowering

/-!
# What a word in capitals is the upper case of

A capital letter of the Latin alphabet is the upper case of itself, of its small letter and of
little else: `ı` becomes an `I` and `ſ` an `S`. What becomes several characters makes no word in
which these characters do not stand one after another. So the texts whose upper case is a given word
in capitals are those that spell it letter by letter.

The letters and expansions of the table are looked at one by one here, as for lower case.
-/
namespace PciInventory.Text

namespace Case

def IsCapital (d : Char) : Prop := 0x41 ≤ d.toNat ∧ d.toNat ≤ 0x5A

instance (d : Char) : Decidable (IsCapital d) := inferInstanceAs (Decidable (_ ∧ _))

/-- The characters that upper-casing makes a capital letter of. -/
inductive Raises (c d : Char) : Prop where
  | capital (same : c = d)
  | small (shifted : c.toNat = d.toNat + 0x20)
  | dotless (here : c = 'ı') (there : d = 'I')
  | long (here : c = 'ſ') (there : d = 'S')

/-- Whether a run makes Latin capitals: it has the small letters or is one of the two exceptions. -/
def Run.raisesLatin (r : Run) : Bool :=
  r == ⟨0x61, 0x7A, 1, -32⟩ || r == ⟨0x131, 0x131, 1, -232⟩ || r == ⟨0x17F, 0x17F, 1, -300⟩

theorem all_raisesLatin :
    upperRuns.all (fun r => r.raisesLatin || Nat.blt 0x5A (r.shifted r.first)) = true := by
  decide +kernel

theorem all_expansions_long :
    upperExpansions.all (fun entry => Nat.blt 1 entry.2.length) = true := by
  decide +kernel

/-- A capital letter stays, and its small letter becomes it. -/
theorem upperOf_latin : ∀ i < 26, upperOf (Char.ofNat (0x41 + i)) = [Char.ofNat (0x41 + i)] ∧
    upperOf (Char.ofNat (0x61 + i)) = [Char.ofNat (0x41 + i)] := by
  decide +kernel

/-- A character becomes several that the table lists, or it becomes one. -/
theorem upperOf_cases (c : Char) :
    (∃ entry ∈ upperExpansions, upperOf c = entry.2.map Char.ofNat) ∨
      upperOf c = [Char.ofNat (shiftBy upperRuns c.toNat)] := by
  unfold upperOf
  cases found : upperExpansions.lookup c.toNat with
  | none => exact .inr rfl
  | some points =>
    obtain ⟨l₁, l₂, split, -⟩ := List.lookup_eq_some_iff.1 found
    exact .inl ⟨(c.toNat, points), by simp [split], rfl⟩

/-- No expansion is a single character. -/
theorem length_of_mem_upperExpansions {entry : Nat × List Nat} (h : entry ∈ upperExpansions) :
    1 < (entry.2.map Char.ofNat).length := by
  have long := List.all_eq_true.1 all_expansions_long entry h
  rwa [List.length_map, ← Nat.blt_eq]

theorem Raises.of_holds {r : Run} (hr : r ∈ upperRuns) {c d : Char} (held : r.holds c.toNat = true)
    (capital : IsCapital d) (moved : r.shifted c.toNat = d.toNat) : Raises c d := by
  obtain ⟨low, high, -⟩ := Run.holds_iff.1 held
  obtain ⟨first, last⟩ := capital
  have known := List.all_eq_true.1 all_raisesLatin r hr
  simp only [Run.raisesLatin, Bool.or_eq_true, beq_iff_eq, Nat.blt_eq] at known
  rcases known with ((rfl | rfl) | rfl) | beyond
  · refine .small ?_
    simp only [Run.shifted] at moved
    omega
  · have here : c = 'ı' := Char.toNat_inj.1 (Nat.le_antisymm high low)
    subst here
    exact .dotless rfl (Char.toNat_inj.1 moved.symm)
  · have here : c = 'ſ' := Char.toNat_inj.1 (Nat.le_antisymm high low)
    subst here
    exact .long rfl (Char.toNat_inj.1 moved.symm)
  · unfold Run.shifted at moved beyond
    omega

/-- The characters whose upper case is a Latin capital. -/
theorem upperOf_eq_singleton_iff {c d : Char} (capital : IsCapital d) :
    upperOf c = [d] ↔ Raises c d := by
  have ⟨first, last⟩ := capital
  constructor
  · intro becomes
    rcases upperOf_cases c with ⟨entry, listed, expansion⟩ | single
    · have long := length_of_mem_upperExpansions listed
      rw [← expansion, becomes] at long
      exact absurd long (Nat.lt_irrefl 1)
    · rw [becomes, List.singleton_inj] at single
      -- The point that the shift gives is no other than that of the capital.
      have point : shiftBy upperRuns c.toNat = d.toNat := by
        rcases Utf8.toNat_ofNat_cases (shiftBy upperRuns c.toNat) with same | nul
        · rw [single, same]
        · rw [← single] at nul
          omega
      cases found : upperRuns.find? (·.holds c.toNat) with
      | none =>
        rw [shiftBy, found] at point
        exact .capital (Char.toNat_inj.1 point)
      | some r =>
        rw [shiftBy, found] at point
        have held := List.find?_some found
        exact .of_holds (List.mem_of_find?_eq_some found) held capital point
  · obtain ⟨i, here⟩ : ∃ i, d.toNat = 0x41 + i := ⟨d.toNat - 0x41, by omega⟩
    obtain ⟨kept, raised⟩ := upperOf_latin i (by omega)
    have letter : Char.ofNat (0x41 + i) = d := by rw [← here, Char.ofNat_toNat]
    rintro (rfl | shifted | ⟨rfl, rfl⟩ | ⟨rfl, rfl⟩)
    · rwa [letter] at kept
    · have small : Char.ofNat (0x61 + i) = c := by
        rw [show 0x61 + i = c.toNat by omega, Char.ofNat_toNat]
      rwa [letter, small] at raised
    · decide +kernel
    · decide +kernel

end Case

open Case (IsCapital Raises upperExpansions)

/-- In a word of capitals that has no expansion in it every letter stands for one character. -/
theorem upper_eq_iff {word : Text} (capitals : ∀ d ∈ word, IsCapital d)
    (plain : ∀ entry ∈ upperExpansions, ¬ entry.2.map Char.ofNat <:+: word) {t : Text} :
    upper t = word ↔ List.Forall₂ Raises t word := by
  induction t generalizing word with
  | nil => exact ⟨fun h => h ▸ .nil, fun h => (List.forall₂_nil_left_iff.1 h).symm⟩
  | cons c t ih =>
    rw [List.forall₂_cons_left_iff]
    have unfolded : upper (c :: t) = Case.upperOf c ++ upper t := List.flatMap_cons
    rw [unfolded]
    constructor
    · rintro rfl
      rcases Case.upperOf_cases c with ⟨entry, listed, expansion⟩ | single
      · refine absurd ?_ (plain entry listed)
        rw [← expansion]
        exact (List.prefix_append _ _).isInfix
      · rw [single, List.singleton_append] at capitals plain ⊢
        obtain ⟨here, later⟩ := List.forall_mem_cons.1 capitals
        refine ⟨_, _, (Case.upperOf_eq_singleton_iff here).1 single, (ih later ?_).1 rfl, rfl⟩
        intro entry listed inside
        exact plain entry listed (inside.trans (List.suffix_cons _ _).isInfix)
    · rintro ⟨d, rest, here, later, rfl⟩
      obtain ⟨capital, capitals⟩ := List.forall_mem_cons.1 capitals
      have tail : upper t = rest := by
        refine (ih capitals fun entry listed inside => ?_).2 later
        exact plain entry listed (inside.trans (List.suffix_cons _ _).isInfix)
      rw [(Case.upperOf_eq_singleton_iff capital).2 here, tail, List.singleton_append]

end PciInventory.Text
