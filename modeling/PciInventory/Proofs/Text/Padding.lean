import PciInventory.Proofs.Text.Decoding
import PciInventory.Proofs.Text.LineEnds

/-!
# Blanks around bytes

A text that is written in front of some bytes or behind them is read in front of what they are read
as or behind it, and leaves that as it is: a character which the bytes break off is as much a fault
in front of another character as it is at the end. So a text around some bytes neither mends nor
breaks them, and if it is blank it is trimmed off again, also where a carriage return of the one and
a line feed of the other make one line end.
-/
namespace PciInventory.Text

namespace Utf8

/-- An expectation that only a continuation byte can meet. -/
def Expectation.IsNarrow : Expectation → Prop
  | .start => True
  | .continuation _ _ low high => 0x80 ≤ low ∧ high ≤ 0xBF

theorem isNarrow_begin (b : Nat) : (begin b).2.IsNarrow := by
  unfold begin
  repeat' split
  all_goals trivial

theorem Expectation.IsNarrow.step {e : Expectation} (h : e.IsNarrow) (b : Nat) :
    (Utf8.step e b).2.IsNarrow := by
  cases e with
  | start => exact isNarrow_begin b
  | continuation more bits low high =>
    simp only [Utf8.step]
    split
    · split
      · trivial
      · exact ⟨Nat.le_refl 0x80, Nat.le_refl 0xBF⟩
    · exact isNarrow_begin b

/-- A byte that does not continue a character ends what is begun, and is read as a first byte. -/
theorem step_of_not_continuation {e : Expectation} (h : e.IsNarrow) {b : Nat}
    (first : b < 0x80 ∨ 0xBF < b) : step e b = (finish e ++ (begin b).1, (begin b).2) := by
  cases e with
  | start => rfl
  | continuation more bits low high =>
    have outside : ¬ (low ≤ b ∧ b ≤ high) := by
      obtain ⟨above, below⟩ := h
      omega
    simp only [step, if_neg outside, finish, List.singleton_append]

/-- The bytes of a character start with one that does not continue a character. -/
theorem exists_encodeChar_eq (c : Char) :
    ∃ b rest, encodeChar c = b :: rest ∧ (b.toNat < 0x80 ∨ 0xBF < b.toNat) := by
  have valid : c.toNat < 0x110000 := by
    have : c.toNat < 0xD800 ∨ 0xDFFF < c.toNat ∧ c.toNat < 0x110000 := c.valid
    omega
  unfold encodeChar
  generalize c.toNat = n at valid
  simp only
  split_ifs
  all_goals
    refine ⟨_, _, rfl, ?_⟩
    simp only [UInt8.toNat_ofNat']
    omega

/-- The bytes of a text are read as the text also behind bytes that break off. -/
theorem readFrom_append_encode {e : Expectation} (h : e.IsNarrow) (bytes : List UInt8) (t : Text) :
    readFrom e (bytes ++ encode t) = readFrom e bytes ++ t.map some := by
  induction bytes generalizing e with
  | nil =>
    cases t with
    | nil => exact (List.append_nil _).symm
    | cons c t =>
      obtain ⟨b, rest, split, first⟩ := exists_encodeChar_eq c
      have whole : encode (c :: t) = b :: (rest ++ encode t) := by
        rw [encode, List.flatMap_cons, split, List.cons_append, encode]
      have alone : readFrom .start (encode (c :: t)) = (c :: t).map some := read_encode (c :: t)
      rw [whole, readFrom_cons] at alone
      rw [List.nil_append, whole, readFrom_cons, step_of_not_continuation h first, readFrom_nil,
        List.append_assoc, ← alone]
      rfl
  | cons b bytes ih =>
    rw [List.cons_append, readFrom_cons, readFrom_cons, ih (h.step _), List.append_assoc]

/-- A text before some bytes and one behind them are read around what the bytes are read as. -/
theorem read_surrounded (before after : Text) (bytes : List UInt8) :
    read (encode before ++ (bytes ++ encode after)) =
      before.map some ++ (read bytes ++ after.map some) := by
  rw [read_eq_readFrom, readFrom_encode, readFrom_append_encode (e := .start) trivial,
    ← read_eq_readFrom]

theorem decode?_surrounded (before after : Text) (bytes : List UInt8) :
    decode? (encode before ++ (bytes ++ encode after)) =
      (decode? bytes).map fun t => before ++ (t ++ after) := by
  have whole (t : Text) : (t.map some).mapM id = some t := by
    induction t with
    | nil => rfl
    | cons c t ih => rw [List.map_cons, List.mapM_cons, ih]; rfl
  rw [decode?, decode?, read_surrounded, List.mapM_append, List.mapM_append, whole, whole]
  cases (read bytes).mapM id <;> rfl

end Utf8

section LineEnds
variable {t t' : Text}

/-- Line ends are unified along a text, and what stands behind another is read in the state that the
other leaves. -/
theorem exists_unifyFrom_append (afterReturn : Bool) (t : Text) : ∃ leftAfterReturn : Bool,
    ∀ t', unifyFrom afterReturn (t ++ t') =
      unifyFrom afterReturn t ++ unifyFrom leftAfterReturn t' := by
  refine ⟨(t.foldl LineEndReader.feed ⟨[], afterReturn⟩).afterReturn, fun t' => ?_⟩
  have further := foldl_feed_lineEnds (t.foldl LineEndReader.feed ⟨[], afterReturn⟩).read
    (t.foldl LineEndReader.feed ⟨[], afterReturn⟩).afterReturn t'
  rw [unifyFrom, List.foldl_append, further, List.reverse_append, List.reverse_reverse]
  rfl

theorem IsBlanks.unifyFrom (h : IsBlanks t) (afterReturn : Bool) :
    IsBlanks (unifyFrom afterReturn t) := by
  induction t generalizing afterReturn with
  | nil => exact h
  | cons c t ih =>
    obtain ⟨here, later⟩ := List.forall_mem_cons.1 h
    have further (leftAfterReturn : Bool) : IsBlanks (Text.unifyFrom leftAfterReturn t) :=
      ih later leftAfterReturn
    by_cases carriage : c = '\r'
    · rw [carriage, unifyFrom_return]
      exact List.forall_mem_cons.2 ⟨by decide, further true⟩
    · by_cases feed : c = '\n'
      · rw [feed, unifyFrom_feed]
        cases afterReturn with
        | false => exact List.forall_mem_cons.2 ⟨by decide, further false⟩
        | true => exact further false
      · rw [unifyFrom_cons _ ⟨carriage, feed⟩]
        exact List.forall_mem_cons.2 ⟨here, further false⟩

/-- Behind a carriage return at most a line feed is lost, which is trimmed off anyway. -/
theorem strip_unifyFrom (afterReturn : Bool) (t : Text) :
    strip (unifyFrom afterReturn t) = strip (unifyLineEnds t) := by
  rw [unifyLineEnds_eq]
  by_cases feed : t.head? = some '\n'
  · obtain ⟨rest, rfl⟩ := List.head?_eq_some_iff.1 feed
    rw [unifyFrom_feed, unifyFrom_feed, if_neg Bool.false_ne_true]
    cases afterReturn with
    | false => rfl
    | true =>
      have front : IsBlanks ['\n'] := List.forall_mem_singleton.2 (by decide)
      have padded : Padded (['\n'] ++ (unifyFrom false rest ++ [])) (unifyFrom false rest) :=
        .intro front nofun
      rw [List.append_nil] at padded
      exact padded.strip_eq.symm
  · rw [unifyFrom_eq _ feed]

/-- Blanks around a text are trimmed off after its line ends are unified, however they meet those of
the text. -/
theorem Padded.strip_unifyLineEnds (h : Padded t t') :
    strip (unifyLineEnds t) = strip (unifyLineEnds t') := by
  cases h with
  | @intro before _ after front back =>
    obtain ⟨behindFront, apart⟩ := exists_unifyFrom_append false before
    obtain ⟨behindText, apart'⟩ := exists_unifyFrom_append behindFront t'
    have padded : Padded (unifyFrom false before ++
        (unifyFrom behindFront t' ++ unifyFrom behindText after)) (unifyFrom behindFront t') :=
      .intro (front.unifyFrom _) (back.unifyFrom _)
    rw [unifyLineEnds_eq, apart, apart', padded.strip_eq, strip_unifyFrom]

end LineEnds

end PciInventory.Text
