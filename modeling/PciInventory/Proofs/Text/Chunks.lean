import PciInventory.Proofs.Text.Decoding
import PciInventory.Proofs.Text.LineEnds
import PciInventory.Text.Chunks

/-!
# Lines read before a fault

The lines that are handed out of a file before its reading fails are the first lines of the file,
whatever the chunks are: the bytes in front of the first fault are decoded as they would be with a
mark for each fault, and a line that ends in them is not changed by what comes behind them.
-/
namespace PciInventory.Text

namespace Utf8

theorem none_not_mem_completedFrom {e : Expectation} {bytes : List UInt8} {k : Nat}
    (clear : k ≤ clearCount e bytes) : none ∉ completedFrom e (bytes.take k) := by
  induction bytes generalizing e k with
  | nil => simp [completedFrom]
  | cons b rest ih =>
    cases k with
    | zero => simp [completedFrom]
    | succ k =>
      rw [clearCount] at clear
      split at clear
      · omega
      · rename_i here
        rw [List.take_succ_cons, completedFrom, List.mem_append, not_or]
        exact ⟨here, ih (by omega)⟩

theorem none_not_mem_clearChunks (size : Nat) (bytes : List UInt8) :
    none ∉ completedFrom .start (clearChunks size bytes) := by
  unfold clearChunks
  simp only
  split
  · rename_i all
    have clear := none_not_mem_completedFrom (Nat.le_refl (clearCount .start bytes))
    rwa [all, List.take_length] at clear
  · exact none_not_mem_completedFrom (Nat.div_mul_le_self _ _)

theorem clearChunks_initial (size : Nat) (bytes : List UInt8) :
    clearChunks size bytes <+: bytes := by
  unfold clearChunks
  simp only
  split
  · exact List.prefix_rfl
  · exact List.take_prefix _ _

theorem completedFrom_initial (e : Expectation) (front back : List UInt8) :
    completedFrom e front <+: readFrom e (front ++ back) := by
  induction front generalizing e with
  | nil => exact List.nil_prefix
  | cons b rest ih =>
    rw [List.cons_append, readFrom_cons, completedFrom]
    exact (List.prefix_append_right_inj _).2 (ih _)

/-- Where there is no fault it does not matter how faults are marked. -/
theorem filterMap_id_eq_map {r : Reading} (clear : none ∉ r) (mark : Char) :
    r.filterMap id = r.map (·.getD mark) := by
  induction r with
  | nil => rfl
  | cons c rest ih =>
    rw [List.mem_cons, not_or] at clear
    cases c with
    | none => exact absurd rfl clear.1
    | some c => exact congrArg (c :: ·) (ih clear.2)

/-- The characters of the clear chunks are the first of the file. -/
theorem completed_clearChunks_initial (size : Nat) (bytes : List UInt8) :
    completed (clearChunks size bytes) <+: decodeLenient bytes := by
  obtain ⟨back, whole⟩ := clearChunks_initial size bytes
  have read := completedFrom_initial .start (clearChunks size bytes) back
  rw [whole, ← read_eq_readFrom] at read
  rw [completed, filterMap_id_eq_map (none_not_mem_clearChunks size bytes) '\uFFFD', decodeLenient]
  exact read.map _

end Utf8

theorem dropEnding_initial (ending t : Text) : dropEnding ending t <+: t := by
  unfold dropEnding
  split
  · exact List.take_prefix _ _
  · exact List.prefix_rfl

/-- What is behind a text does not change the line ends that are read in it. -/
theorem unifyLineEnds_initial {t t' : Text} (h : t <+: t') :
    unifyLineEnds t <+: unifyLineEnds t' := by
  obtain ⟨rest, rfl⟩ := h
  generalize reached : t.foldl LineEndReader.feed ⟨[], false⟩ = r
  have behind := foldl_feed_lineEnds r.read r.afterReturn rest
  refine ⟨unifyFrom r.afterReturn rest, ?_⟩
  rw [unifyLineEnds, unifyLineEnds, List.foldl_append, reached, behind, List.reverse_append,
    List.reverse_reverse]

/-- All lines of a text but the last stay what they are with more text behind them. -/
theorem dropLast_splitOn_initial {u v : Text} (h : u <+: v) :
    (u.splitOn '\n').dropLast <+: linesOfUnified v := by
  obtain ⟨rest, rfl⟩ := h
  by_cases feed : '\n' ∈ u
  · obtain ⟨after, before, parted, last⟩ := List.eq_append_cons_of_mem (List.mem_reverse.2 feed)
    have same : u = before.reverse ++ '\n' :: after.reverse := by
      rw [← List.reverse_reverse u, parted]
      simp
    have single : after.reverse.splitOn '\n' = [after.reverse] :=
      List.splitOnP_eq_singleton fun c hc => by
        simpa using fun found : c = '\n' => last (found ▸ List.mem_reverse.1 hc)
    rw [same, List.splitOn_append_cons_self, single, List.dropLast_concat, List.append_assoc,
      List.cons_append, linesOfUnified_append]
    exact List.prefix_append _ _
  · have single : u.splitOn '\n' = [u] :=
      List.splitOnP_eq_singleton fun c hc => by
        simpa using fun found : c = '\n' => feed (found ▸ hc)
    rw [single]
    exact List.nil_prefix

/-- The lines that are handed out before a fault are the first lines of the file. -/
theorem linesBeforeFault_initial (size : Nat) (bytes : List UInt8) :
    linesBeforeFault size bytes <+: lines (Utf8.decodeLenient bytes) := by
  have decoded := Utf8.completed_clearChunks_initial size bytes
  exact dropLast_splitOn_initial (unifyLineEnds_initial ((dropEnding_initial _ _).trans decoded))

end PciInventory.Text
