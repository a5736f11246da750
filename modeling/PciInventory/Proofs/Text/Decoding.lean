import PciInventory.Proofs.Text.Trimming
import PciInventory.Text.Utf8

/-!
# Reading bytes as text

What the reader of UTF-8 makes of bytes that are not all in order. Its state between two bytes never
lets an ASCII byte pass for a part of a longer character: such a byte ends whatever is begun and is
its own character, so bytes may be read apart at it. The other way round an ASCII character comes of
its own byte only. The bytes of a text are read as the text.

Nothing is said here of where in a faulty stretch the faults are counted.
-/
namespace PciInventory.Text.Utf8

/-- What some bytes complete behind others after which something is expected, the end included. -/
def readFrom (e : Expectation) (bytes : List UInt8) : Reading :=
  ((⟨[], e⟩ : Reader).feedAll bytes).finish

@[simp] theorem readFrom_nil (e : Expectation) : readFrom e [] = finish e := by
  cases e <;> rfl

theorem readFrom_cons (e : Expectation) (b : UInt8) (rest : List UInt8) :
    readFrom e (b :: rest) = (step e b.toNat).1 ++ readFrom (step e b.toNat).2 rest := by
  have here : (⟨[], e⟩ : Reader).feedAll (b :: rest) =
      (⟨(step e b.toNat).1.reverse, (step e b.toNat).2⟩ : Reader).feedAll rest := by
    simp [Reader.feedAll, Reader.feed]
  rw [readFrom, here, Reader.feedAll_completed]
  simp [readFrom, Reader.finish]

theorem read_eq_readFrom (bytes : List UInt8) : read bytes = readFrom .start bytes := rfl

/-- An expectation that can arise: the next byte is no ASCII, and with it the bits are enough for
a character that is none either. -/
def Expectation.IsProper : Expectation → Prop
  | .start => True
  | .continuation more bits low _ =>
    0x80 ≤ low ∧ 2 ≤ 64 * bits + (low - 0x80) ∧ (more ≤ 1 → 0x80 ≤ 64 * bits + (low - 0x80))

/-- What a first byte can do: it is a character, or a fault, or it begins a character. -/
theorem begin_cases (b : Nat) : (b < 0x80 ∧ begin b = ([some (Char.ofNat b)], .start)) ∨
    begin b = ([none], .start) ∨
    ∃ more bits low high, begin b = ([], .continuation more bits low high) ∧
      (Expectation.continuation more bits low high).IsProper := by
  by_cases ascii : b < 0x80
  · exact .inl ⟨ascii, by rw [begin, if_pos ascii]⟩
  · by_cases fault : b < 0xC2
    · exact .inr (.inl (by rw [begin, if_neg ascii, if_pos fault]))
    · rw [begin, if_neg ascii, if_neg fault]
      repeat' split
      all_goals first
        | exact .inr (.inl rfl)
        | exact .inr (.inr ⟨_, _, _, _, rfl, by decide⟩)
        | exact .inr (.inr ⟨_, _, _, _, rfl, by simp only [Expectation.IsProper]; omega⟩)

theorem isProper_begin (b : Nat) : (begin b).2.IsProper := by
  rcases begin_cases b with ⟨-, first⟩ | first | ⟨more, bits, low, high, first, proper⟩
  · rw [first]
    trivial
  · rw [first]
    trivial
  · rw [first]
    exact proper

theorem Expectation.IsProper.step {e : Expectation} (h : e.IsProper) (b : Nat) :
    (Utf8.step e b).2.IsProper := by
  cases e with
  | start => exact isProper_begin b
  | continuation more bits low high =>
    obtain ⟨above, enough, -⟩ := h
    simp only [Utf8.step]
    split
    · split
      · trivial
      · simp only [Expectation.IsProper]
        omega
    · exact isProper_begin b

/-- An ASCII byte ends what is begun and is a character of its own. -/
theorem step_ascii {e : Expectation} (h : e.IsProper) {b : Nat} (ascii : b < 0x80) :
    step e b = (finish e ++ [some (Char.ofNat b)], .start) := by
  have first : begin b = ([some (Char.ofNat b)], .start) := by rw [begin, if_pos ascii]
  cases e with
  | start => exact first
  | continuation more bits low high =>
    have outside : ¬ (low ≤ b ∧ b ≤ high) := by
      obtain ⟨above, -⟩ := h
      omega
    simp only [step, if_neg outside, first, finish, List.cons_append, List.nil_append]

/-- The character of a number has it as its code point, or the number is none and it is NUL. -/
theorem toNat_ofNat_cases (n : Nat) : (Char.ofNat n).toNat = n ∨ (Char.ofNat n).toNat = 0 := by
  by_cases valid : n.isValidChar
  · exact .inl (by rw [Char.ofNat, dif_pos valid]; rfl)
  · exact .inr (by rw [Char.ofNat, dif_neg valid]; rfl)

/-- A character that another byte completes is no ASCII, if it is not NUL. -/
theorem not_ascii_of_mem_step {e : Expectation} (h : e.IsProper) {b : Nat} (other : 0x80 ≤ b)
    {c : Char} (hc : some c ∈ (step e b).1) : c.toNat = 0 ∨ 0x80 ≤ c.toNat := by
  have first : some c ∉ (begin b).1 := by
    rcases begin_cases b with ⟨ascii, -⟩ | first | ⟨more, bits, low, high, first, -⟩
    · omega
    · rw [first]
      simp
    · rw [first]
      exact List.not_mem_nil
  cases e with
  | start => exact absurd hc first
  | continuation more bits low high =>
    obtain ⟨above, -, enough⟩ := h
    simp only [step] at hc
    split at hc
    · split at hc
      · rename_i inside last
        simp only [List.mem_singleton, Option.some.injEq] at hc
        rw [hc]
        rcases toNat_ofNat_cases (64 * bits + (b - 0x80)) with point | nul
        · rw [point]
          have := enough last
          omega
        · exact .inl nul
      · simp at hc
    · exact absurd (by simpa using hc) first

/-- Bytes may be read apart at an ASCII byte. -/
theorem readFrom_append_ascii {e : Expectation} (h : e.IsProper) (front : List UInt8) {b : UInt8}
    (ascii : b.toNat < 0x80) (back : List UInt8) : readFrom e (front ++ b :: back) =
      readFrom e front ++ some (Char.ofNat b.toNat) :: readFrom .start back := by
  induction front generalizing e with
  | nil => simp [readFrom_cons, step_ascii h ascii]
  | cons x front ih =>
    rw [List.cons_append, readFrom_cons, readFrom_cons, ih (h.step _), List.append_assoc]

/-- An ASCII character other than NUL comes of its own byte. -/
theorem mem_of_mem_readFrom {e : Expectation} (h : e.IsProper) {bytes : List UInt8} {c : Char}
    (hc : some c ∈ readFrom e bytes) (nul : c.toNat ≠ 0) (ascii : c.toNat < 0x80) :
    UInt8.ofNat c.toNat ∈ bytes := by
  induction bytes generalizing e with
  | nil => cases e <;> simp [finish] at hc
  | cons b rest ih =>
    rw [readFrom_cons, List.mem_append] at hc
    rcases hc with here | later
    · by_cases small : b.toNat < 0x80
      · rw [step_ascii h small] at here
        have same : c = Char.ofNat b.toNat := by
          cases e <;> simpa [finish] using here
        rcases toNat_ofNat_cases b.toNat with point | zero
        · simp [same, point]
        · rw [← same] at zero
          exact absurd zero nul
      · have := not_ascii_of_mem_step h (Nat.not_lt.1 small) here
        omega
    · exact List.mem_cons_of_mem b (ih (h.step _) later)

/-- With something begun there is something to come, be it a fault. -/
theorem readFrom_continuation_ne_nil (more bits low high : Nat) (bytes : List UInt8) :
    readFrom (.continuation more bits low high) bytes ≠ [] := by
  induction bytes generalizing more bits low high with
  | nil => simp [finish]
  | cons b rest ih =>
    rw [readFrom_cons]
    simp only [step]
    split
    · split
      · simp
      · simpa using ih _ _ _ _
    · simp

theorem read_eq_nil_iff {bytes : List UInt8} : read bytes = [] ↔ bytes = [] := by
  constructor
  · intro none
    cases bytes with
    | nil => rfl
    | cons b rest =>
      rw [read_eq_readFrom, readFrom_cons, List.append_eq_nil_iff] at none
      obtain ⟨nothing, later⟩ := none
      rw [step] at nothing later
      rcases begin_cases b.toNat with ⟨-, first⟩ | first | ⟨more, bits, low, high, first, -⟩
      · rw [first] at nothing
        cases nothing
      · rw [first] at nothing
        cases nothing
      · rw [first] at later
        exact absurd later (readFrom_continuation_ne_nil _ _ _ _ _)
  · rintro rfl
    rfl

/-- Reading with U+FFFD for each fault goes apart at an ASCII byte. -/
theorem decodeLenient_append_ascii (front : List UInt8) {b : UInt8} (ascii : b.toNat < 0x80)
    (back : List UInt8) : decodeLenient (front ++ b :: back) =
      decodeLenient front ++ Char.ofNat b.toNat :: decodeLenient back := by
  simp [decodeLenient, read_eq_readFrom, readFrom_append_ascii (e := .start) trivial front ascii]

@[simp] theorem decodeLenient_nil : decodeLenient [] = [] := rfl

theorem decodeLenient_cons_ascii {b : UInt8} (ascii : b.toNat < 0x80) (back : List UInt8) :
    decodeLenient (b :: back) = Char.ofNat b.toNat :: decodeLenient back :=
  decodeLenient_append_ascii [] ascii back

/-- Bytes are read apart where an ASCII byte is the last in front or the first behind. -/
theorem decodeLenient_append {front back : List UInt8}
    (ascii : (∀ b, front.getLast? = some b → b.toNat < 0x80) ∨
      ∀ b, back.head? = some b → b.toNat < 0x80) :
    decodeLenient (front ++ back) = decodeLenient front ++ decodeLenient back := by
  rcases ascii with last | first
  · rcases List.eq_nil_or_concat front with rfl | ⟨init, b, rfl⟩
    · rfl
    · rw [List.concat_eq_append] at last ⊢
      have own := last b List.getLast?_concat
      rw [List.append_assoc, List.singleton_append, decodeLenient_append_ascii init own,
        decodeLenient_append_ascii init own, decodeLenient_nil, List.append_assoc,
        List.singleton_append]
  · cases back with
    | nil => rw [decodeLenient_nil, List.append_nil, List.append_nil]
    | cons b rest =>
      have own := first b rfl
      rw [decodeLenient_append_ascii front own, decodeLenient_cons_ascii own]

theorem decodeLenient_eq_nil_iff {bytes : List UInt8} : decodeLenient bytes = [] ↔ bytes = [] := by
  rw [decodeLenient, List.map_eq_nil_iff, read_eq_nil_iff]

theorem mem_of_mem_decodeLenient {bytes : List UInt8} {c : Char} (hc : c ∈ decodeLenient bytes)
    (nul : c.toNat ≠ 0) (ascii : c.toNat < 0x80) : UInt8.ofNat c.toNat ∈ bytes := by
  obtain ⟨found, hf, rfl⟩ := List.mem_map.1 hc
  cases found with
  | none => exact absurd ascii (by decide)
  | some c => exact mem_of_mem_readFrom (e := .start) trivial hf nul ascii

/-- Where what is read has an ASCII character, what was to be read has its byte: the text in front
of the character is that of the bytes in front, and so behind it. -/
theorem exists_of_decodeLenient_eq {bytes : List UInt8} {front back : Text} {c : Char}
    (h : decodeLenient bytes = front ++ c :: back) (nul : c.toNat ≠ 0) (ascii : c.toNat < 0x80) :
    ∃ before after, bytes = before ++ UInt8.ofNat c.toNat :: after ∧
      decodeLenient before = front ∧ decodeLenient after = back := by
  have byte : (UInt8.ofNat c.toNat).toNat = c.toNat := by
    simp only [UInt8.toNat_ofNat']
    omega
  have ownByte : (UInt8.ofNat c.toNat).toNat < 0x80 := by rw [byte]; exact ascii
  -- Induction on the bytes: the first such byte gives the first such character.
  induction hn : bytes.length using Nat.strongRecOn generalizing bytes front with
  | ind n ih =>
    have here : UInt8.ofNat c.toNat ∈ bytes :=
      mem_of_mem_decodeLenient (by rw [h]; simp) nul ascii
    obtain ⟨first, rest, rfl, fresh⟩ := List.eq_append_cons_of_mem here
    rw [decodeLenient_append_ascii first ownByte, byte, Char.ofNat_toNat] at h
    rcases parted_cases h fun hc => fresh (mem_of_mem_decodeLenient hc nul ascii) with
      ⟨rfl, rfl⟩ | ⟨more, rfl, later⟩
    · exact ⟨first, rest, rfl, rfl, rfl⟩
    · obtain ⟨before, after, rfl, rfl, ha⟩ :=
        ih rest.length (by simp only [← hn, List.length_append, List.length_cons]; omega) later rfl
      refine ⟨first ++ UInt8.ofNat c.toNat :: before, after, by simp, ?_, ha⟩
      rw [decodeLenient_append_ascii first ownByte, byte, Char.ofNat_toNat]

/-- What a byte, given as a number, completes and leaves to expect. -/
theorem readFrom_ofNat_cons {e : Expectation} {n : Nat} (small : n < 256) (rest : List UInt8) :
    readFrom e (UInt8.ofNat n :: rest) = (step e n).1 ++ readFrom (step e n).2 rest := by
  have byte : (UInt8.ofNat n).toNat = n := by
    simp only [UInt8.toNat_ofNat']
    omega
  rw [readFrom_cons, byte]

section Encoding
variable {bits k : Nat} (rest : List UInt8)

/-- The last byte of a character adds six bits and completes it. -/
theorem readFrom_last (small : k < 64) :
    readFrom (.continuation 1 bits 0x80 0xBF) (UInt8.ofNat (0x80 + k) :: rest) =
      some (Char.ofNat (64 * bits + k)) :: readFrom .start rest := by
  have inside : 0x80 ≤ 0x80 + k ∧ 0x80 + k ≤ 0xBF := by omega
  rw [readFrom_ofNat_cons (by omega)]
  simp only [step, if_pos inside, Nat.le_refl, if_true, Nat.add_sub_cancel_left, List.cons_append,
    List.nil_append]

/-- A further byte of a character adds six bits. -/
theorem readFrom_further (small : k < 64) (more : Nat) {low high : Nat}
    (inside : low ≤ 0x80 + k ∧ 0x80 + k ≤ high) :
    readFrom (.continuation (more + 2) bits low high) (UInt8.ofNat (0x80 + k) :: rest) =
      readFrom (.continuation (more + 1) (64 * bits + k) 0x80 0xBF) rest := by
  rw [readFrom_ofNat_cons (by omega)]
  simp only [step, if_pos inside, Nat.add_sub_cancel_left]
  rw [if_neg (by omega)]
  rfl

theorem readFrom_three (small : bits < 16) (six : k < 64) (long : bits = 0 → 32 ≤ k)
    (scalar : bits = 13 → k < 32) :
    readFrom .start (UInt8.ofNat (0xE0 + bits) :: UInt8.ofNat (0x80 + k) :: rest) =
      readFrom (.continuation 1 (64 * bits + k) 0x80 0xBF) rest := by
  have first : ∃ low high, step .start (0xE0 + bits) = ([], .continuation 2 bits low high) ∧
      low ≤ 0x80 + k ∧ 0x80 + k ≤ high := by
    by_cases least : bits = 0
    · exact ⟨0xA0, 0xBF, by rw [least]; rfl, by omega⟩
    · by_cases surrogate : bits = 13
      · exact ⟨0x80, 0x9F, by rw [surrogate]; rfl, by omega⟩
      · refine ⟨0x80, 0xBF, ?_, by omega⟩
        simp only [step, begin]
        rw [if_neg (by omega), if_neg (by omega), if_neg (by omega), if_neg (by omega),
          if_neg (by omega), if_pos (by omega), Nat.add_sub_cancel_left]
  obtain ⟨low, high, start, inside⟩ := first
  rw [readFrom_ofNat_cons (by omega), start, List.nil_append, readFrom_further rest six 0 inside]

theorem readFrom_four (small : bits < 5) (six : k < 64) (long : bits = 0 → 16 ≤ k)
    (scalar : bits = 4 → k < 16) :
    readFrom .start (UInt8.ofNat (0xF0 + bits) :: UInt8.ofNat (0x80 + k) :: rest) =
      readFrom (.continuation 2 (64 * bits + k) 0x80 0xBF) rest := by
  have first : ∃ low high, step .start (0xF0 + bits) = ([], .continuation 3 bits low high) ∧
      low ≤ 0x80 + k ∧ 0x80 + k ≤ high := by
    by_cases least : bits = 0
    · exact ⟨0x90, 0xBF, by rw [least]; rfl, by omega⟩
    · by_cases most : bits = 4
      · exact ⟨0x80, 0x8F, by rw [most]; rfl, by omega⟩
      · refine ⟨0x80, 0xBF, ?_, by omega⟩
        simp only [step, begin]
        rw [if_neg (by omega), if_neg (by omega), if_neg (by omega), if_neg (by omega),
          if_neg (by omega), if_neg (by omega), if_neg (by omega), if_pos (by omega),
          Nat.add_sub_cancel_left]
  obtain ⟨low, high, start, inside⟩ := first
  rw [readFrom_ofNat_cons (by omega), start, List.nil_append, readFrom_further rest six 1 inside]

/-- A character's bytes are read as the character, whatever comes behind them. -/
theorem readFrom_encodeChar (c : Char) :
    readFrom .start (encodeChar c ++ rest) = some c :: readFrom .start rest := by
  have valid : c.toNat < 0xD800 ∨ 0xDFFF < c.toNat ∧ c.toNat < 0x110000 := c.valid
  have whole : Char.ofNat c.toNat = c := Char.ofNat_toNat c
  unfold encodeChar
  generalize c.toNat = n at valid whole
  simp only [Nat.pow_eq, Nat.pow_zero, Nat.div_one, Nat.pow_one, show 64 ^ 2 = 4096 from rfl]
  split_ifs with one two three
  · rw [List.singleton_append, readFrom_ofNat_cons (by omega)]
    simp only [step, begin, if_pos one, whole, List.singleton_append]
  · have start : step .start (0xC0 + n / 64) = ([], .continuation 1 (n / 64) 0x80 0xBF) := by
      simp only [step, begin]
      rw [if_neg (by omega), if_neg (by omega), if_pos (by omega), Nat.add_sub_cancel_left]
    rw [List.cons_append, readFrom_ofNat_cons (by omega), start, List.nil_append,
      List.singleton_append, readFrom_last rest (by omega), Nat.div_add_mod, whole]
  · have bits : 64 * (64 * (n / 4096) + n / 64 % 64) + n % 64 = n := by omega
    rw [List.cons_append, List.cons_append, List.singleton_append,
      readFrom_three _ (by omega) (by omega) (by omega) (by omega),
      readFrom_last rest (by omega), bits, whole]
  · have bits : 64 * (64 * (64 * (n / 262144) + n / 4096 % 64) + n / 64 % 64) + n % 64 = n := by
      omega
    rw [List.cons_append, List.cons_append, List.cons_append, List.singleton_append,
      readFrom_four _ (by omega) (by omega) (by omega) (by omega),
      readFrom_further _ (by omega) 0 (by omega), readFrom_last rest (by omega), bits, whole]

/-- The bytes of a text are read as the text, whatever comes behind them. -/
theorem readFrom_encode (t : Text) :
    readFrom .start (encode t ++ rest) = t.map some ++ readFrom .start rest := by
  induction t with
  | nil => rfl
  | cons c t ih =>
    rw [encode, List.flatMap_cons, List.append_assoc, readFrom_encodeChar, ← encode, ih]
    rfl

theorem read_encode (t : Text) : read (encode t) = t.map some := by
  have alone := readFrom_encode [] t
  rwa [List.append_nil, readFrom_nil, finish, List.append_nil] at alone

theorem decodeLenient_encode (t : Text) : decodeLenient (encode t) = t := by
  rw [decodeLenient, read_encode, List.map_map]
  exact List.map_id t

end Encoding

end PciInventory.Text.Utf8
