import PciInventory.Text.Basic

/-!
# UTF-8

Bytes are read one at a time. Between two bytes the reader knows what a character begun by the
bytes so far still needs, so reading one run of bytes after another is reading them together. A
byte that cannot continue the character begun ends it as a fault and is looked at again as a first
byte; this yields one fault for each longest invalid beginning. The reader is strict, and gives up
at a fault, or lenient, and puts U+FFFD in its place.
-/
namespace PciInventory.Text.Utf8

/-- What the reader knows between two bytes. -/
inductive Expectation where
  /-- No character is begun. -/
  | start
  /-- A character needs `more` further bytes, the next of them from `low` to `high`; the bytes read
  so far carry the bits `bits`. -/
  | continuation (more : Nat) (bits : Nat) (low high : Nat)
  deriving DecidableEq

/-- What a byte completes: a character, or a fault. -/
abbrev Reading := List (Option Char)

/-- What a first byte completes and what it makes the reader expect. -/
def begin (b : Nat) : Reading × Expectation :=
  if b < 0x80 then ([some (Char.ofNat b)], .start)
  else if b < 0xC2 then ([none], .start)
  else if b < 0xE0 then ([], .continuation 1 (b - 0xC0) 0x80 0xBF)
  else if b = 0xE0 then ([], .continuation 2 0 0xA0 0xBF)
  else if b = 0xED then ([], .continuation 2 0xD 0x80 0x9F)
  else if b < 0xF0 then ([], .continuation 2 (b - 0xE0) 0x80 0xBF)
  else if b = 0xF0 then ([], .continuation 3 0 0x90 0xBF)
  else if b < 0xF4 then ([], .continuation 3 (b - 0xF0) 0x80 0xBF)
  else if b = 0xF4 then ([], .continuation 3 4 0x80 0x8F)
  else ([none], .start)

/-- What the next byte completes and what the reader expects after it. -/
def step : Expectation → Nat → Reading × Expectation
  | .start, b => begin b
  | .continuation more bits low high, b =>
    if low ≤ b ∧ b ≤ high then
      let bits := 64 * bits + (b - 0x80)
      if more ≤ 1 then ([some (Char.ofNat bits)], .start)
      else ([], .continuation (more - 1) bits 0x80 0xBF)
    else
      let next := begin b
      (none :: next.1, next.2)

/-- What the end of the bytes completes: a character left unfinished is a fault. -/
def finish : Expectation → Reading
  | .start => []
  | .continuation .. => [none]

/-- A reader between two bytes: what is completed, newest first, and what is expected. -/
structure Reader where
  completed : Reading
  expectation : Expectation

def Reader.fresh : Reader := ⟨[], .start⟩

def Reader.feed (r : Reader) (b : UInt8) : Reader :=
  let next := step r.expectation b.toNat
  ⟨next.1.reverse ++ r.completed, next.2⟩

def Reader.feedAll (r : Reader) (bytes : List UInt8) : Reader := bytes.foldl Reader.feed r

/-- All that was completed, once no more bytes come. -/
def Reader.finish (r : Reader) : Reading :=
  (Utf8.finish r.expectation ++ r.completed).reverse

def read (bytes : List UInt8) : Reading := (Reader.fresh.feedAll bytes).finish

def decode? (bytes : List UInt8) : Option Text := (read bytes).mapM id

/-- The text of some bytes, with U+FFFD for each fault. -/
def decodeLenient (bytes : List UInt8) : Text := (read bytes).map (·.getD '\uFFFD')

def encodeChar (c : Char) : List UInt8 :=
  let n := c.toNat
  let tail (k : Nat) : UInt8 := UInt8.ofNat (0x80 + n / Nat.pow 64 k % 64)
  if n < 0x80 then [UInt8.ofNat n]
  else if n < 0x800 then [UInt8.ofNat (0xC0 + n / 64), tail 0]
  else if n < 0x10000 then [UInt8.ofNat (0xE0 + n / 4096), tail 1, tail 0]
  else [UInt8.ofNat (0xF0 + n / 262144), tail 2, tail 1, tail 0]

def encode (t : Text) : List UInt8 := t.flatMap encodeChar

/-- Reading two runs of bytes is reading the second where the first leaves off. -/
theorem Reader.feedAll_append (r : Reader) (a b : List UInt8) :
    r.feedAll (a ++ b) = (r.feedAll a).feedAll b := List.foldl_append

/-- What is completed before some bytes does not bear on how they are read. -/
theorem Reader.feedAll_completed (r : Reader) (bytes : List UInt8) :
    r.feedAll bytes =
      ⟨((⟨[], r.expectation⟩ : Reader).feedAll bytes).completed ++ r.completed,
        ((⟨[], r.expectation⟩ : Reader).feedAll bytes).expectation⟩ := by
  induction bytes generalizing r with
  | nil => simp [feedAll]
  | cons b rest ih =>
    have h1 := ih (r.feed b)
    have h2 := ih ((⟨[], r.expectation⟩ : Reader).feed b)
    simp only [feedAll, List.foldl_cons] at *
    rw [h1, h2]
    simp [feed]

end PciInventory.Text.Utf8
