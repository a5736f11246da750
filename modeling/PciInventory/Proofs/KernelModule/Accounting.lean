import PciInventory.Proofs.KernelModule.Rows
import PciInventory.Proofs.Number.Grammar

/-!
# Every row is accounted for

A row of the module list is too short to be one, or drops out with a warning, or gives a module.
Which of the three it is, and what the warning or the module is, is said here of the row's words
alone. Where a list can be read to its end, its modules and its warnings are those of its rows in
their order, one for each row that is long enough.
-/
namespace PciInventory

open Binary64

/-- The words of a row that matter: its name, its size, its reference count and its state. -/
def HasFields (line name size refcount state : Text) : Prop :=
  ∃ users more, Text.words line = name :: size :: refcount :: users :: state :: more

/-- A text is a whole number, and its binary64 number is the one nearest to it. -/
inductive WholeText (t : Text) (x : Binary64) : Prop where
  | intro {n : Int} (spelled : WholeLiteral.Spells t n) (rounded : Rounds (n < 0) n.natAbs x)
      (finite : x.isFinite = true)

/-- The states of a module and their numbers. -/
def moduleStates : List (Text × Int) :=
  [("Live".toList, 1), ("Loading".toList, 0), ("Unloading".toList, -1)]

/-- What a row comes to, said of its words. A size or a count that is no whole number comes before a
state that is none. -/
inductive RowIs (line : Text) : ModuleRow → Prop where
  | short (few : (Text.words line).length < 5) : RowIs line .tooShort
  | sizeBad {name size refcount state : Text} (fields : HasFields line name size refcount state)
      (bad : ∀ n, ¬ WholeLiteral.Spells size n) :
      RowIs line (.dropped (.moduleNumbersBad name size refcount))
  | refcountBad {name size refcount state : Text} {x : Binary64}
      (fields : HasFields line name size refcount state) (hs : WholeText size x)
      (bad : ∀ n, ¬ WholeLiteral.Spells refcount n) :
      RowIs line (.dropped (.moduleNumbersBad name size refcount))
  | stateUnknown {name size refcount state : Text} {x y : Binary64}
      (fields : HasFields line name size refcount state) (hs : WholeText size x)
      (hr : WholeText refcount y) (unknown : ∀ n, (state, n) ∉ moduleStates) :
      RowIs line (.dropped (.moduleStateUnknown name state))
  | given {name size refcount state : Text} {x y z : Binary64} {n : Int}
      (fields : HasFields line name size refcount state) (hs : WholeText size x)
      (hr : WholeText refcount y) (known : (state, n) ∈ moduleStates)
      (rounded : Rounds (n < 0) n.natAbs z) : RowIs line (.row ⟨name, x, y, z⟩)

theorem moduleState?_eq_some_iff {t : Text} {n : Int} :
    moduleState? t = some n ↔ (t, n) ∈ moduleStates := by
  constructor
  · intro h
    unfold moduleState? at h
    split at h
    · rename_i live
      cases h
      rw [live]
      decide
    · split at h
      · rename_i loading
        cases h
        rw [loading]
        decide
      · split at h
        · rename_i unloading
          cases h
          rw [unloading]
          decide
        · cases h
  · intro known
    simp only [moduleStates, List.mem_cons, List.not_mem_nil, or_false, Prod.mk.injEq] at known
    rcases known with ⟨rfl, rfl⟩ | ⟨rfl, rfl⟩ | ⟨rfl, rfl⟩
    all_goals decide

theorem wholeText_iff {t : Text} {x : Binary64} : WholeText t x ↔
    ∃ n, WholeLiteral.read? t = some n ∧ x = .ofInt n ∧ (Binary64.ofInt n).isFinite = true := by
  constructor
  · rintro ⟨spelled, rounded, finite⟩
    obtain rfl := rounded.unique (rounds_ofInt _)
    exact ⟨_, WholeLiteral.read?_eq_some_iff_spells.2 spelled, rfl, finite⟩
  · rintro ⟨n, read, rfl, finite⟩
    exact .intro (WholeLiteral.read?_eq_some_iff_spells.1 read) (rounds_ofInt n) finite

theorem read?_eq_none_iff_spells {t : Text} :
    WholeLiteral.read? t = none ↔ ∀ n, ¬ WholeLiteral.Spells t n := by
  simp only [Option.eq_none_iff_forall_not_mem, Option.mem_def,
    WholeLiteral.read?_eq_some_iff_spells]

theorem hasFields_or_short (line : Text) :
    (∃ name size refcount state, HasFields line name size refcount state) ∨
      (Text.words line).length < 5 := by
  unfold HasFields
  rcases Text.words line with _ | ⟨name, _ | ⟨size, _ | ⟨refcount, _ | ⟨users, _ | ⟨state, more⟩⟩⟩⟩⟩
  all_goals simp

theorem HasFields.not_short {line name size refcount state : Text}
    (h : HasFields line name size refcount state) : ¬ (Text.words line).length < 5 := by
  obtain ⟨users, more, split⟩ := h
  rw [split]
  simp

namespace ModuleRow
variable {line name size refcount state : Text} {row : ModuleRow}

theorem read_of_short (few : (Text.words line).length < 5) : read line = .tooShort := by
  unfold read
  split
  · rename_i split
    exact absurd few (HasFields.not_short ⟨_, _, split⟩)
  · rfl

/-- Rows with the same words where words matter are read alike. -/
theorem read_congr {line' : Text} (fields : HasFields line name size refcount state)
    (fields' : HasFields line' name size refcount state) : read line = read line' := by
  obtain ⟨users, more, split⟩ := fields
  obtain ⟨users', more', split'⟩ := fields'
  simp only [read, split, split']

/-- What is read from a row that does not end the reading is what the row comes to. -/
theorem rowIs_read (small : read line ≠ .tooLarge) : RowIs line (read line) := by
  rcases hasFields_or_short line with ⟨name, size, refcount, state, fields⟩ | few
  · have ⟨users, more, split⟩ := fields
    simp only [read, split] at small ⊢
    cases hs : WholeLiteral.read? size with
    | none => exact .sizeBad fields (read?_eq_none_iff_spells.1 hs)
    | some s =>
      by_cases first : (Binary64.ofInt s).isFinite = true
      · have sizeText : WholeText size (.ofInt s) := wholeText_iff.2 ⟨s, hs, rfl, first⟩
        simp only [hs, if_pos first] at small ⊢
        cases hr : WholeLiteral.read? refcount with
        | none => exact .refcountBad fields sizeText (read?_eq_none_iff_spells.1 hr)
        | some r =>
          by_cases second : (Binary64.ofInt r).isFinite = true
          · have refcountText : WholeText refcount (.ofInt r) :=
              wholeText_iff.2 ⟨r, hr, rfl, second⟩
            simp only [if_pos second, ofState]
            cases known : moduleState? state with
            | none =>
              refine .stateUnknown fields sizeText refcountText fun n found => ?_
              rw [moduleState?_eq_some_iff.2 found] at known
              cases known
            | some n =>
              exact .given fields sizeText refcountText (moduleState?_eq_some_iff.1 known)
                (rounds_ofInt n)
          · simp only [hr, if_neg second] at small
            exact absurd rfl small
      · simp only [hs, if_neg first] at small
        exact absurd rfl small
  · rw [read_of_short few]
    exact .short few

theorem ne_tooLarge_of_rowIs (h : RowIs line row) : row ≠ .tooLarge := by
  rintro rfl
  cases h

theorem read_of_rowIs (h : RowIs line row) : read line = row := by
  cases h with
  | short few => exact read_of_short few
  | sizeBad fields bad =>
    obtain ⟨users, more, split⟩ := fields
    simp only [read, split, read?_eq_none_iff_spells.2 bad]
  | refcountBad fields hs bad =>
    obtain ⟨users, more, split⟩ := fields
    obtain ⟨s, whole, -, finite⟩ := wholeText_iff.1 hs
    simp only [read, split, whole, if_pos finite, read?_eq_none_iff_spells.2 bad]
  | @stateUnknown name size refcount state x y fields hs hr unknown =>
    obtain ⟨users, more, split⟩ := fields
    obtain ⟨s, whole, -, finite⟩ := wholeText_iff.1 hs
    obtain ⟨r, whole', -, finite'⟩ := wholeText_iff.1 hr
    have none : moduleState? state = none := by
      cases known : moduleState? state with
      | none => rfl
      | some n => exact absurd (moduleState?_eq_some_iff.1 known) (unknown n)
    simp only [read, split, whole, if_pos finite, whole', if_pos finite', ofState, none]
  | given fields hs hr known rounded =>
    obtain ⟨users, more, split⟩ := fields
    obtain ⟨s, whole, rfl, finite⟩ := wholeText_iff.1 hs
    obtain ⟨r, whole', rfl, finite'⟩ := wholeText_iff.1 hr
    obtain rfl := rounded.unique (rounds_ofInt _)
    simp only [read, split, whole, if_pos finite, whole', if_pos finite', ofState,
      moduleState?_eq_some_iff.2 known]

theorem rowIs_unique {row' : ModuleRow} (h : RowIs line row) (h' : RowIs line row') :
    row = row' :=
  (read_of_rowIs h).symm.trans (read_of_rowIs h')

/-- A row gives one module or one warning, and nothing if it is too short. -/
theorem count_of_rowIs (h : RowIs line row) :
    row.modules.length + row.notices.length = if 5 ≤ (Text.words line).length then 1 else 0 := by
  cases h with
  | short few => exact (if_neg (not_le.2 few)).symm
  | sizeBad fields _ => exact (if_pos (not_lt.1 fields.not_short)).symm
  | refcountBad fields _ _ => exact (if_pos (not_lt.1 fields.not_short)).symm
  | stateUnknown fields _ _ _ => exact (if_pos (not_lt.1 fields.not_short)).symm
  | given fields _ _ _ _ => exact (if_pos (not_lt.1 fields.not_short)).symm

end ModuleRow

section Run
variable {lines lines' : List Text} {rows : List ModuleRow}

/-- Rows that come to something each give, in their order, the warnings and the modules of what they
come to. -/
theorem readModuleRows_of_rowIs (h : List.Forall₂ RowIs lines rows) : readModuleRows lines =
    ⟨rows.flatMap ModuleRow.notices, .ok (rows.flatMap ModuleRow.modules)⟩ := by
  induction h with
  | nil => rfl
  | @cons line row rest rows here later ih =>
    have read := ModuleRow.read_of_rowIs here
    have small : ModuleRow.read line ≠ .tooLarge := by
      rw [read]
      exact ModuleRow.ne_tooLarge_of_rowIs here
    rw [readModuleRows_cons small, ih, read]
    rfl

/-- Rows are read to their end exactly if each of them comes to something. -/
theorem readModuleRows_eq_ok_iff {ns : List Notice} {ms : List KernelModule} :
    readModuleRows lines = ⟨ns, .ok ms⟩ ↔ ∃ rows, List.Forall₂ RowIs lines rows ∧
      ns = rows.flatMap ModuleRow.notices ∧ ms = rows.flatMap ModuleRow.modules := by
  constructor
  · intro read
    have small := readModuleRows_isOk_iff.1 ⟨ms, congrArg Logged.result read⟩
    have each : List.Forall₂ RowIs lines (lines.map ModuleRow.read) := by
      rw [List.forall₂_map_right_iff, List.forall₂_same]
      intro line hl
      exact ModuleRow.rowIs_read fun large => small line hl (ModuleRow.read_eq_tooLarge_iff.1 large)
    rw [readModuleRows_of_rowIs each] at read
    cases read
    exact ⟨_, each, rfl, rfl⟩
  · rintro ⟨rows, each, rfl, rfl⟩
    exact readModuleRows_of_rowIs each

theorem count_of_forall₂ (h : List.Forall₂ RowIs lines rows) :
    (rows.flatMap ModuleRow.modules).length + (rows.flatMap ModuleRow.notices).length =
      lines.countP fun line => 5 ≤ (Text.words line).length := by
  induction h with
  | nil => rfl
  | cons here later ih =>
    have one := ModuleRow.count_of_rowIs here
    rw [List.flatMap_cons, List.flatMap_cons, List.length_append, List.length_append,
      List.countP_cons]
    simp only [decide_eq_true_eq]
    omega

/-- Two rows that have the same words where words matter. -/
inductive SameFields : Text → Text → Prop where
  | same (line : Text) : SameFields line line
  | changed {line line' name size refcount state : Text}
      (fields : HasFields line name size refcount state)
      (fields' : HasFields line' name size refcount state) : SameFields line line'

theorem SameFields.read_eq {line line' : Text} (h : SameFields line line') :
    ModuleRow.read line = ModuleRow.read line' := by
  cases h with
  | same => rfl
  | changed fields fields' => exact ModuleRow.read_congr fields fields'

/-- The words that do not matter have no influence. -/
theorem readModuleRows_congr (h : List.Forall₂ SameFields lines lines') :
    readModuleRows lines = readModuleRows lines' := by
  induction h with
  | nil => rfl
  | cons here later ih => simp only [readModuleRows, here.read_eq, ih]

/-- Each row of a list that is read to its end is accounted for once: the list's modules and
warnings are, in their order, those of the rows, and each row comes to one thing only. Together they
are as many as the rows that are long enough. The words of a row that do not matter have no
influence. -/
theorem readModuleRows_accounts (lines : List Text) :
    (∀ ns ms, readModuleRows lines = ⟨ns, .ok ms⟩ ↔ ∃ rows, List.Forall₂ RowIs lines rows ∧
      ns = rows.flatMap ModuleRow.notices ∧ ms = rows.flatMap ModuleRow.modules) ∧
    (∀ line row row', RowIs line row → RowIs line row' → row = row') ∧
    (∀ ns ms, readModuleRows lines = ⟨ns, .ok ms⟩ → ms.length + ns.length =
      lines.countP fun line => 5 ≤ (Text.words line).length) ∧
    ∀ lines', List.Forall₂ SameFields lines lines' →
      readModuleRows lines = readModuleRows lines' := by
  refine ⟨fun _ _ => readModuleRows_eq_ok_iff, fun _ _ _ => ModuleRow.rowIs_unique, ?_,
    fun _ => readModuleRows_congr⟩
  intro ns ms read
  obtain ⟨rows, each, rfl, rfl⟩ := readModuleRows_eq_ok_iff.1 read
  exact count_of_forall₂ each

end Run

/-- A size that is no whole number comes before a state that is none. -/
example : (readModuleRows ["a 1_0 2 x Live".toList, "b ? 2 - Dead".toList]).notices =
    [.moduleNumbersBad ['b'] ['?'] ['2']] := by decide +kernel

end PciInventory
