import PciInventory.Collector.Basic
import PciInventory.FileTree.Writing
import PciInventory.Proofs.Number.Rounding

/-!
# How a poll fails

A poll that fails should do so because its listing is refused. That is not all: a path with a NUL
character, a module list that is not UTF-8 and a whole number too large for the format end a poll as
well, each with a failure of its own. The main statement says of which polls the first is all. Of a
module list that is not UTF-8 some rows may be read before that shows, so that a number too large in
one of them is met first.

A device never makes a poll fail, and neither does a row of the module list that is dropped.
-/
namespace PciInventory

/-- A row of whole numbers of which one is too large. A reference count does not matter behind a
size that is no whole number, since the row is dropped for that. -/
def ModuleRow.IsOversized (line : Text) : Prop :=
  ∃ name size refcount users state more,
    Text.words line = name :: size :: refcount :: users :: state :: more ∧
    ∃ s, WholeLiteral.read? size = some s ∧
      (Binary64.overflowBound ≤ s.natAbs ∨
        ∃ r, WholeLiteral.read? refcount = some r ∧ Binary64.overflowBound ≤ r.natAbs)

theorem Binary64.isFinite_ofInt_eq_false (n : Int) :
    (ofInt n).isFinite = false ↔ overflowBound ≤ n.natAbs := by
  rw [← Nat.not_lt, ← isFinite_ofInt, Bool.not_eq_true]

namespace ModuleRow

theorem ofState_ne_tooLarge (name : Text) (size refcount : Binary64) (state : Text) :
    ofState name size refcount state ≠ .tooLarge := by
  unfold ofState
  split <;> nofun

/-- A row of enough words ends the reading if one of its whole numbers is too large. -/
theorem read_eq_tooLarge_iff_of_words {line name size refcount users state : Text}
    {more : List Text}
    (split : Text.words line = name :: size :: refcount :: users :: state :: more) :
    read line = .tooLarge ↔ ∃ s, WholeLiteral.read? size = some s ∧
      (Binary64.overflowBound ≤ s.natAbs ∨
        ∃ r, WholeLiteral.read? refcount = some r ∧ Binary64.overflowBound ≤ r.natAbs) := by
  simp only [read, split, ← Binary64.isFinite_ofInt_eq_false]
  cases WholeLiteral.read? size with
  | none => simp
  | some s =>
    cases first : (Binary64.ofInt s).isFinite with
    | false => simp [first]
    | true =>
      cases WholeLiteral.read? refcount with
      | none => simp [first]
      | some r =>
        cases second : (Binary64.ofInt r).isFinite with
        | false => simp [first, second]
        | true => simp [first, second, ofState_ne_tooLarge]

theorem read_eq_tooLarge_iff {line : Text} : read line = .tooLarge ↔ IsOversized line := by
  constructor
  · intro h
    have long : ∃ name size refcount users state more,
        Text.words line = name :: size :: refcount :: users :: state :: more := by
      unfold read at h
      split at h
      · rename_i split
        exact ⟨_, _, _, _, _, _, split⟩
      · cases h
    obtain ⟨name, size, refcount, users, state, more, split⟩ := long
    exact ⟨name, size, refcount, users, state, more, split,
      (read_eq_tooLarge_iff_of_words split).1 h⟩
  · rintro ⟨name, size, refcount, users, state, more, split, large⟩
    exact (read_eq_tooLarge_iff_of_words split).2 large

end ModuleRow

/-- Reading rows fails exactly at an oversized row, and in one way. -/
theorem readModuleRows_eq_error_iff {lines : List Text} {e : Failure} :
    (readModuleRows lines).result = .error e ↔
      e = .integerTooLarge ∧ ∃ line ∈ lines, ModuleRow.IsOversized line := by
  induction lines with
  | nil => simp [readModuleRows, Logged.silent]
  | cons line rest ih =>
    simp only [List.mem_cons, exists_eq_or_imp, ← ModuleRow.read_eq_tooLarge_iff] at ih ⊢
    cases row : ModuleRow.read line with
    | tooShort => simp [readModuleRows, row, ih]
    | dropped why => simp [readModuleRows, row, ih]
    | tooLarge => simp [readModuleRows, row, Logged.silent, eq_comm]
    | row m =>
      rw [readModuleRows, row]
      simp only [reduceCtorEq, false_or, ← ih]
      cases (readModuleRows rest).result <;> simp [Except.map]

theorem listDevices_eq_error_iff {tree : FileTree} {root : Text} {e : Failure} :
    listDevices tree root = .error e ↔
      (Path.isPassable root = false ∧ e = .nulInPath) ∨
      (Path.isPassable root = true ∧ ∃ refusal, tree.listDirectory root = .error refusal ∧
        e = .enumeration ⟨.devices, refusal, root⟩) := by
  unfold listDevices
  cases Path.isPassable root with
  | false => simp [eq_comm]
  | true => cases tree.listDirectory root <;> simp [eq_comm]

/-- How the rows of a module list fail to be read: one that is handed out is oversized, or else the
list is not UTF-8. -/
theorem readModuleBytes_eq_error_iff {bytes : List UInt8} {e : Failure} :
    (readModuleBytes bytes).result = .error e ↔
      (∃ t, Text.Utf8.decode? bytes = some t ∧ e = .integerTooLarge ∧
        ∃ line ∈ Text.lines t, ModuleRow.IsOversized line) ∨
      (Text.Utf8.decode? bytes = none ∧
        let early := Text.linesBeforeFault Text.chunkSize bytes
        ((e = .integerTooLarge ∧ ∃ line ∈ early, ModuleRow.IsOversized line) ∨
          (e = .undecodable ∧ ∀ line ∈ early, ¬ ModuleRow.IsOversized line))) := by
  unfold readModuleBytes
  cases decoded : Text.Utf8.decode? bytes with
  | some t => simp [readModuleRows_eq_error_iff]
  | none =>
    generalize Text.linesBeforeFault Text.chunkSize bytes = early
    have rows (e : Failure) : (readModuleRows early).result = .error e ↔ _ :=
      readModuleRows_eq_error_iff
    cases read : (readModuleRows early).result with
    | error e' =>
      obtain ⟨rfl, large⟩ := (rows e').1 read
      simp [Logged.andThen, read, large, eq_comm]
    | ok ms =>
      have small : ∀ line ∈ early, ¬ ModuleRow.IsOversized line := by
        intro line hl large
        have failed := (rows .integerTooLarge).2 ⟨rfl, line, hl, large⟩
        rw [read] at failed
        cases failed
      simp only [Logged.andThen, read, Logged.silent, Except.error.injEq]
      grind

theorem ModuleCollector.readModules_eq_error_iff {c : ModuleCollector} {tree : FileTree}
    {e : Failure} : (c.readModules tree).result = .error e ↔
      (Path.isPassable c.path = false ∧ e = .nulInPath) ∨
      (Path.isPassable c.path = true ∧
        ((∃ refusal, tree.contentAt c.path = .error refusal ∧
          e = .enumeration ⟨.modules, refusal, c.path⟩) ∨
        ∃ bytes, tree.contentAt c.path = .ok bytes ∧
          (readModuleBytes bytes).result = .error e)) := by
  unfold readModules
  cases Path.isPassable c.path with
  | false => simp [Logged.silent, eq_comm]
  | true => cases tree.contentAt c.path <;> simp [Logged.silent, eq_comm]

namespace Collector

/-- A poll is not kept from its end by anything but a refused listing: the path has no NUL, and the
module list, as far as there is one, is UTF-8 and has no oversized row. -/
def Legible : Collector → FileTree → Prop
  | .pcie c, _ => Path.isPassable c.root = true
  | .kernelModules c, tree => Path.isPassable c.path = true ∧
    ∀ bytes, tree.contentAt c.path = .ok bytes →
      ∃ t, Text.Utf8.decode? bytes = some t ∧ ∀ line ∈ Text.lines t, ¬ ModuleRow.IsOversized line

theorem poll_pcie_eq_error_iff {c : PcieCollector} {tree : FileTree} {e : Failure} :
    ((Collector.pcie c).poll tree).result = .error e ↔ listDevices tree c.root = .error e := by
  simp only [poll, PcieCollector.poll, PcieCollector.pollWith]
  cases listDevices tree c.root <;> simp [Logged.silent]

theorem poll_kernelModules_eq_error_iff {c : ModuleCollector} {tree : FileTree} {e : Failure} :
    ((Collector.kernelModules c).poll tree).result = .error e ↔
      (c.readModules tree).result = .error e := by
  simp only [poll, ModuleCollector.poll]
  cases (c.readModules tree).result <;> simp [Except.map]

/-- The failures that a poll can end with. -/
theorem poll_eq_error_cases {c : Collector} {tree : FileTree} {e : Failure}
    (h : (c.poll tree).result = .error e) :
    (∃ r, e = .enumeration r) ∨ e = .nulInPath ∨ e = .undecodable ∨ e = .integerTooLarge := by
  cases c with
  | pcie c =>
    rw [poll_pcie_eq_error_iff, listDevices_eq_error_iff] at h
    rcases h with ⟨-, rfl⟩ | ⟨-, refusal, -, rfl⟩
    · exact .inr (.inl rfl)
    · exact .inl ⟨_, rfl⟩
  | kernelModules c =>
    rw [poll_kernelModules_eq_error_iff, ModuleCollector.readModules_eq_error_iff] at h
    rcases h with ⟨-, rfl⟩ | ⟨-, ⟨refusal, -, rfl⟩ | ⟨bytes, -, faulty⟩⟩
    · exact .inr (.inl rfl)
    · exact .inl ⟨_, rfl⟩
    · rcases readModuleBytes_eq_error_iff.1 faulty with
        ⟨t, -, rfl, -⟩ | ⟨-, ⟨rfl, -⟩ | ⟨rfl, -⟩⟩
      · exact .inr (.inr (.inr rfl))
      · exact .inr (.inr (.inr rfl))
      · exact .inr (.inr (.inl rfl))

/-- A poll of a legible collector fails only because its listing is refused. -/
theorem Legible.enumeration {c : Collector} {tree : FileTree} (legible : c.Legible tree)
    {e : Failure} (h : (c.poll tree).result = .error e) : ∃ r, e = .enumeration r := by
  cases c with
  | pcie c =>
    rw [poll_pcie_eq_error_iff, listDevices_eq_error_iff] at h
    rcases h with ⟨nul, -⟩ | ⟨-, refusal, -, rfl⟩
    · rw [show Path.isPassable c.root = true from legible] at nul
      cases nul
    · exact ⟨_, rfl⟩
  | kernelModules c =>
    obtain ⟨passable, readable⟩ := legible
    rw [poll_kernelModules_eq_error_iff, ModuleCollector.readModules_eq_error_iff] at h
    rcases h with ⟨nul, -⟩ | ⟨-, ⟨refusal, -, rfl⟩ | ⟨bytes, content, faulty⟩⟩
    · rw [passable] at nul
      cases nul
    · exact ⟨_, rfl⟩
    · obtain ⟨t, decoded, small⟩ := readable bytes content
      rcases readModuleBytes_eq_error_iff.1 faulty with
        ⟨t', decoded', -, line, hl, large⟩ | ⟨none, -⟩
      · obtain rfl : t = t' := Option.some.inj (decoded.symm.trans decoded')
        exact absurd large (small line hl)
      · rw [decoded] at none
        cases none

/-- Of a poll that fails for no other cause than a refused listing, the collector is legible. -/
theorem legible_of_forall {c : Collector} {tree : FileTree}
    (h : ∀ e, (c.poll tree).result = .error e → ∃ r, e = .enumeration r) : c.Legible tree := by
  cases c with
  | pcie c =>
    simp only [poll_pcie_eq_error_iff, listDevices_eq_error_iff] at h
    cases passable : Path.isPassable c.root with
    | true => exact passable
    | false =>
      obtain ⟨r, he⟩ := h .nulInPath (.inl ⟨passable, rfl⟩)
      cases he
  | kernelModules c =>
    simp only [poll_kernelModules_eq_error_iff, ModuleCollector.readModules_eq_error_iff] at h
    cases passable : Path.isPassable c.path with
    | false =>
      obtain ⟨r, he⟩ := h .nulInPath (.inl ⟨passable, rfl⟩)
      cases he
    | true =>
      refine ⟨passable, ?_⟩
      intro bytes content
      have listed (e : Failure) (failed : (readModuleBytes bytes).result = .error e) :
          ∃ r, e = .enumeration r := h e (.inr ⟨passable, .inr ⟨bytes, content, failed⟩⟩)
      simp only [readModuleBytes_eq_error_iff] at listed
      cases decoded : Text.Utf8.decode? bytes with
      | none =>
        by_cases large :
            ∃ line ∈ Text.linesBeforeFault Text.chunkSize bytes, ModuleRow.IsOversized line
        · obtain ⟨r, he⟩ := listed .integerTooLarge (.inr ⟨decoded, .inl ⟨rfl, large⟩⟩)
          cases he
        · have small : ∀ line ∈ Text.linesBeforeFault Text.chunkSize bytes,
              ¬ ModuleRow.IsOversized line := fun line hl here => large ⟨line, hl, here⟩
          obtain ⟨r, he⟩ := listed .undecodable (.inr ⟨decoded, .inr ⟨rfl, small⟩⟩)
          cases he
      | some t =>
        refine ⟨t, rfl, ?_⟩
        intro line hl large
        obtain ⟨r, he⟩ := listed .integerTooLarge (.inl ⟨t, decoded, rfl, line, hl, large⟩)
        cases he

/-- A poll can end with four failures, and a refused listing is the only one exactly if the
collector is legible. -/
theorem poll_fails_by_enumeration_iff (c : Collector) (tree : FileTree) :
    (∀ e, (c.poll tree).result = .error e → (∃ r, e = .enumeration r) ∨
      e = .nulInPath ∨ e = .undecodable ∨ e = .integerTooLarge) ∧
    ((∀ e, (c.poll tree).result = .error e → ∃ r, e = .enumeration r) ↔ c.Legible tree) :=
  ⟨fun _ => poll_eq_error_cases, legible_of_forall, fun legible _ => legible.enumeration⟩

/-- A tree whose one file has a byte that UTF-8 does not have. -/
def illegibleTree : FileTree := (FileTree.empty []).put [['m']] (.file [0xFF])

/-- The poll of that file ends with another failure than a refused listing. -/
theorem poll_illegibleTree :
    ((kernelModules ⟨['m']⟩).poll illegibleTree).result = .error .undecodable ∧
      ¬ ∃ r, Failure.undecodable = .enumeration r :=
  ⟨by rfl, nofun⟩

end Collector

end PciInventory
