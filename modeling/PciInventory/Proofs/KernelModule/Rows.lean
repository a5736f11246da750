import PciInventory.Proofs.Collector.Failures

/-!
# Rows one by one

The module list is read row by row, and a row that drops out should leave the others alone. It does:
rows behind others are read as they would be on their own. But a row can also end the reading, and
then neither the rows before it nor those behind it give a module. A row ends the reading exactly if
it is oversized, and only for that is a row without proper numbers not dropped with a warning.

Nothing is said here of what the modules of a list are.
-/
namespace PciInventory

/-- A text that can be turned into a binary64 number: it is a whole number, and not too large. -/
def IsModuleNumber (t : Text) : Prop :=
  ∃ n, WholeLiteral.read? t = some n ∧ n.natAbs < Binary64.overflowBound

namespace ModuleRow

def notices : ModuleRow → List Notice
  | .dropped why => [why]
  | _ => []

def modules : ModuleRow → List KernelModule
  | .row m => [m]
  | _ => []

end ModuleRow

theorem map_nil_append (result : Except Failure (List KernelModule)) :
    result.map ([] ++ ·) = result := by
  cases result <;> rfl

/-- A row that does not end the reading gives what it gives on its own, in front of the others. -/
theorem readModuleRows_cons {line : Text} (small : ModuleRow.read line ≠ .tooLarge)
    (rest : List Text) : readModuleRows (line :: rest) =
      ⟨(ModuleRow.read line).notices ++ (readModuleRows rest).notices,
        (readModuleRows rest).result.map ((ModuleRow.read line).modules ++ ·)⟩ := by
  rw [readModuleRows]
  cases row : ModuleRow.read line with
  | tooShort => exact congrArg (Logged.mk _) (map_nil_append _).symm
  | dropped why => exact congrArg (Logged.mk _) (map_nil_append _).symm
  | tooLarge => exact absurd row small
  | row m => rfl

/-- A row that ends the reading ends it at once. -/
theorem readModuleRows_of_tooLarge {line : Text} (large : ModuleRow.read line = .tooLarge)
    (rest : List Text) : readModuleRows (line :: rest) = .silent (.error .integerTooLarge) := by
  rw [readModuleRows, large]

/-- Rows behind others are read once those are, and as they are read on their own. -/
theorem readModuleRows_append (above below : List Text) :
    readModuleRows (above ++ below) = (readModuleRows above).andThen fun ms =>
      ⟨(readModuleRows below).notices, (readModuleRows below).result.map (ms ++ ·)⟩ := by
  induction above with
  | nil => exact congrArg (Logged.mk _) (map_nil_append _).symm
  | cons line rest ih =>
    rw [List.cons_append]
    by_cases large : ModuleRow.read line = .tooLarge
    · rw [readModuleRows_of_tooLarge large, readModuleRows_of_tooLarge large]
      rfl
    · rw [readModuleRows_cons large, readModuleRows_cons large, ih]
      unfold Logged.andThen
      cases (readModuleRows rest).result with
      | error e => rfl
      | ok ms =>
        cases (readModuleRows below).result <;>
          simp [Except.map, List.append_assoc]

theorem readModuleRows_of_forall {lines : List Text}
    (small : ∀ line ∈ lines, ¬ ModuleRow.IsOversized line) : readModuleRows lines =
      ⟨lines.flatMap fun line => (ModuleRow.read line).notices,
        .ok (lines.flatMap fun line => (ModuleRow.read line).modules)⟩ := by
  induction lines with
  | nil => rfl
  | cons line rest ih =>
    obtain ⟨here, later⟩ := List.forall_mem_cons.1 small
    rw [readModuleRows_cons (fun large => here (ModuleRow.read_eq_tooLarge_iff.1 large)), ih later]
    rfl

/-- Rows are read to their end exactly if none of them is oversized. -/
theorem readModuleRows_isOk_iff {lines : List Text} :
    (∃ ms, (readModuleRows lines).result = .ok ms) ↔
      ∀ line ∈ lines, ¬ ModuleRow.IsOversized line := by
  constructor
  · rintro ⟨ms, read⟩ line hl large
    have ended := readModuleRows_eq_error_iff.2 ⟨rfl, line, hl, large⟩
    rw [read] at ended
    cases ended
  · intro small
    exact ⟨_, congrArg Logged.result (readModuleRows_of_forall small)⟩

/-- A row of enough words whose size or count is no number is dropped with a warning, unless it is
oversized. -/
theorem ModuleRow.read_eq_dropped_iff {line name size refcount users state : Text}
    {more : List Text}
    (split : Text.words line = name :: size :: refcount :: users :: state :: more)
    (bad : ¬ IsModuleNumber size ∨ ¬ IsModuleNumber refcount) :
    read line = .dropped (.moduleNumbersBad name size refcount) ↔ ¬ IsOversized line := by
  have number (t : Text) : IsModuleNumber t ↔
      ∃ n, WholeLiteral.read? t = some n ∧ (Binary64.ofInt n).isFinite = true := by
    simp only [IsModuleNumber, Binary64.isFinite_ofInt]
  rw [number, number] at bad
  rw [← read_eq_tooLarge_iff]
  simp only [read, split]
  cases whole : WholeLiteral.read? size with
  | none => simp
  | some s =>
    cases first : (Binary64.ofInt s).isFinite with
    | false => simp [first]
    | true =>
      cases count : WholeLiteral.read? refcount with
      | none => simp [first]
      | some r =>
        cases second : (Binary64.ofInt r).isFinite with
        | false => simp [first, second]
        | true => simp [whole, first, count, second] at bad

/-- Rows are read to their end if none is oversized, rows behind others are read as on their own,
and a row whose size or count is no number is dropped with one warning, unless it is oversized. -/
theorem readModuleRows_row_by_row (above below : List Text) :
    ((∃ ms, (readModuleRows above).result = .ok ms) ↔
      ∀ line ∈ above, ¬ ModuleRow.IsOversized line) ∧
    (readModuleRows (above ++ below) = (readModuleRows above).andThen fun ms =>
      ⟨(readModuleRows below).notices, (readModuleRows below).result.map (ms ++ ·)⟩) ∧
    ∀ line name size refcount users state more,
      Text.words line = name :: size :: refcount :: users :: state :: more →
      ¬ IsModuleNumber size ∨ ¬ IsModuleNumber refcount →
      (readModuleRows [line] = ⟨[.moduleNumbersBad name size refcount], .ok []⟩ ↔
        ¬ ModuleRow.IsOversized line) := by
  refine ⟨readModuleRows_isOk_iff, readModuleRows_append above below, ?_⟩
  intro line name size refcount users state more split bad
  constructor
  · intro read
    have small := readModuleRows_isOk_iff.1 ⟨[], congrArg Logged.result read⟩
    exact small line List.mem_cons_self
  · intro small
    rw [readModuleRows, (ModuleRow.read_eq_dropped_iff split bad).2 small]
    rfl

def properRow : Text := "a 1 2 - Live 0".toList

/-- A row whose size is a whole number of 309 digits. -/
def oversizedRow : Text := "b ".toList ++ List.replicate 309 '9' ++ " 0 - Live 0".toList

/-- The module of a proper row is lost if an oversized row comes behind it. -/
theorem readModuleRows_oversizedRow :
    (readModuleRows [properRow]).result = .ok [⟨['a'], .ofInt 1, .ofInt 2, .ofInt 1⟩] ∧
    (readModuleRows [oversizedRow]).result = .error .integerTooLarge ∧
    (readModuleRows [properRow, oversizedRow]).result = .error .integerTooLarge := by
  decide +kernel

end PciInventory
