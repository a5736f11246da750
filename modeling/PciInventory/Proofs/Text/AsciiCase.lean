import PciInventory.Proofs.Text.Lowering

/-!
# Lower case in ASCII

Full case mapping agrees with the case of ASCII on ASCII. It also takes some characters from outside
into ASCII, but two letters only come from there: `i`, from a capital with a dot, and `k`, from the
sign for kelvin. So a text in ASCII with neither of them is the lower case of its variants in ASCII
case and of no other text.

The letters from outside are found by going through the table run by run.
-/
namespace PciInventory.Text

def IsAscii (c : Char) : Prop := c.toNat < 128

instance (c : Char) : Decidable (IsAscii c) := inferInstanceAs (Decidable (c.toNat < 128))

namespace Case

theorem lowerOf_of_isAscii {c : Char} (h : IsAscii c) : lowerOf c = [c.toLower] := by
  have all : ∀ n < 128, lowerOf (Char.ofNat n) = [(Char.ofNat n).toLower] := by decide +kernel
  have here := all c.toNat h
  rwa [Char.ofNat_toNat] at here

theorem ne_sigma_of_isAscii {c : Char} (h : IsAscii c) : c ≠ 'Σ' := by
  rintro rfl
  exact absurd h (by decide)

/-- Whether a run lies in ASCII, leads out of it, or is that of the sign for kelvin. -/
def Run.isApart (r : Run) : Bool :=
  Nat.blt r.last 128 || Nat.ble 128 (r.shifted r.first) ||
    (Nat.beq r.first r.last && Nat.beq (r.shifted r.first) 'k'.toNat)

theorem all_isApart : lowerRuns.all Run.isApart = true := by decide +kernel

/-- A letter of a run from outside of ASCII stays outside, or becomes a `k`. -/
theorem shifted_of_outside {r : Run} (hr : r ∈ lowerRuns) {n : Nat} (h : r.holds n = true)
    (outside : 128 ≤ n) : 128 ≤ r.shifted n ∨ r.shifted n = 'k'.toNat := by
  have apart := List.all_eq_true.1 all_isApart r hr
  simp only [Run.isApart, Bool.or_eq_true, Bool.and_eq_true, Nat.blt_eq, Nat.ble_eq, Nat.beq_eq]
    at apart
  obtain ⟨low, high, -⟩ := Run.holds_iff.1 h
  have above : r.shifted r.first ≤ r.shifted n := by
    unfold Run.shifted
    omega
  rcases apart with (inside | out) | ⟨single, kelvin⟩
  · omega
  · exact .inl (le_trans out above)
  · have only : n = r.first := by omega
    rw [only]
    exact .inr kelvin

/-- What comes into ASCII from outside is an `i` or a `k`. -/
theorem Becomes.isAscii {c d : Char} (h : Becomes c d) (inside : IsAscii d) (noI : d ≠ 'i')
    (noK : d ≠ 'k') : IsAscii c := by
  by_contra outside
  rw [IsAscii, not_lt] at outside
  rcases h with ⟨-, rfl | rfl⟩ | ⟨-, h⟩
  · exact absurd inside (by decide)
  · exact absurd inside (by decide)
  · rcases mem_lowerOf_cases h with ⟨-, rfl⟩ | (rfl | rfl) | ⟨r, hr, held, rfl⟩
    · exact absurd inside (not_lt.2 outside)
    · exact noI rfl
    · exact absurd inside (by decide)
    · obtain ⟨valid, -⟩ := settled_of_holds hr held
      rw [IsAscii, toNat_ofNat valid] at inside
      rcases shifted_of_outside hr held outside with out | kelvin
      · omega
      · rw [kelvin] at noK
        exact noK (by decide)

/-- Every character becomes some of the characters of the lower case. -/
theorem exists_becomes {t before : Text} {c : Char} (hc : c ∈ t) :
    ∃ d ∈ lowerFrom before t, Becomes c d := by
  induction t generalizing before with
  | nil => cases hc
  | cons c' rest ih =>
    obtain ⟨front, some, become, split⟩ := lowerFrom_cons before c' rest
    rw [split]
    rcases List.mem_cons.1 hc with rfl | later
    · obtain ⟨d, more, rfl⟩ := List.exists_cons_of_ne_nil some
      exact ⟨d, List.mem_append_left _ List.mem_cons_self, become d List.mem_cons_self⟩
    · have further : ∃ d ∈ lowerFrom (c' :: before) rest, Becomes c d := ih later
      obtain ⟨d, hd, become⟩ := further
      exact ⟨d, List.mem_append_right _ hd, become⟩

end Case

theorem lower_of_isAscii {t : Text} (h : ∀ c ∈ t, IsAscii c) : lower t = t.map Char.toLower := by
  have from_any (before : Text) : Case.lowerFrom before t = t.map Char.toLower := by
    induction t generalizing before with
    | nil => rfl
    | cons c rest ih =>
      have here := h c List.mem_cons_self
      rw [Case.lowerFrom, if_neg (Case.ne_sigma_of_isAscii here), Case.lowerOf_of_isAscii here,
        ih fun c hc => h c (List.mem_cons_of_mem _ hc)]
      rfl
  exact from_any []

theorem isAscii_of_toLower {c : Char} (h : IsAscii c.toLower) : IsAscii c := by
  unfold Char.toLower at h
  split at h
  · rename_i upper
    have high : c.toNat ≤ 'Z'.toNat := upper.2
    exact lt_of_le_of_lt high (by decide)
  · exact h

/-- A text that becomes a text in ASCII without `i` and `k` is in ASCII itself. -/
theorem isAscii_of_lower {t : Text}
    (plain : ∀ d ∈ lower t, IsAscii d ∧ d ≠ 'i' ∧ d ≠ 'k') : ∀ c ∈ t, IsAscii c := by
  intro c hc
  obtain ⟨d, hd, become⟩ := Case.exists_becomes hc
  obtain ⟨inside, noI, noK⟩ := plain d hd
  exact become.isAscii inside noI noK

/-- A text in ASCII without `i` and `k` is the lower case of its variants in ASCII case, and of no
other text. -/
theorem lower_eq_iff {t word : Text} (plain : ∀ d ∈ word, IsAscii d ∧ d ≠ 'i' ∧ d ≠ 'k') :
    lower t = word ↔ t.map Char.toLower = word := by
  constructor
  · rintro rfl
    exact (lower_of_isAscii (isAscii_of_lower plain)).symm
  · rintro rfl
    refine lower_of_isAscii fun c hc => ?_
    exact isAscii_of_toLower (plain c.toLower (List.mem_map_of_mem hc)).1

/-- Both letters do come from outside. -/
example : lower ['\u212A', '\u0130'] = ['k', 'i', '\u0307'] := by decide +kernel

end PciInventory.Text
