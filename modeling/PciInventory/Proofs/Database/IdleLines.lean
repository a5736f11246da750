import PciInventory.Proofs.Database.Declaring
import PciInventory.Proofs.Database.Entries
import PciInventory.Proofs.Text.Trimming

/-!
# Idle lines

A line that adds no entry leaves the context as it found it, whichever context that is, one that no
lines lead to included. So a line of a file that adds nothing where it stands may be left out: the
lines behind it are read as before. Blank lines, comments and lines behind three tabs or more add
nothing anywhere, so they may also be put in anywhere.

Whether another line adds something hangs on the lines in front of it. Put in elsewhere, it may.
-/
namespace PciInventory

/-- A line that adds nothing wherever it stands: it is blank, a comment, or behind three tabs. -/
def IsIdle (line : Text) : Prop :=
  Text.strip line = [] ∨ line.head? = some '#' ∨ List.replicate 3 '\t' <+: line

instance (line : Text) : Decidable (IsIdle line) := inferInstanceAs (Decidable (_ ∨ _))

namespace Context
variable {ctx : Context} {line : Text} {lines left : List Text}

theorem advance_of_isSilent {line : Text} (h : isSilent line = true) (ctx : Context) :
    ctx.advance line = (ctx, none) := by
  rw [advance, if_pos h]

/-- Without its line end a blank line is blank and a comment is a comment. -/
theorem isSilent_dropLineEnd (h : Text.strip line = [] ∨ line.head? = some '#') :
    isSilent (Text.dropLineEnd line) = true := by
  have silent : Text.strip (Text.dropLineEnd line) = [] ∨
      (Text.dropLineEnd line).head? = some '#' := by
    rcases h with blank | comment
    · refine .inl (Text.strip_eq_nil_iff.2 ?_)
      intro c hc
      exact Text.strip_eq_nil_iff.1 blank c ((Text.dropLineEnd_prefix line).subset hc)
    · obtain ⟨rest, rfl⟩ := List.head?_eq_some_iff.1 comment
      exact .inr (Text.head?_dropLineEnd (by decide))
  simpa [isSilent] using silent

theorem respond_of_none {rank : LineRank} {d : Declaration} (h : (ctx.respond rank d).2 = none) :
    ctx.respond rank d = (ctx, none) := by
  unfold respond at h ⊢
  split at h
  -- Only a line behind tabs that fits nowhere adds no entry.
  case h_7 => rfl
  all_goals cases h

theorem advance_of_none (h : (ctx.advance line).2 = none) : ctx.advance line = (ctx, none) := by
  cases found : declared? line with
  | none => exact advance_of_silent (declared?_eq_none_iff.1 found) ctx
  | some what =>
    have acts := advance_of_declares (declared?_eq_some_iff.1 found) ctx
    rw [acts] at h ⊢
    exact respond_of_none h

theorem advance_of_deep (rest : Text) (ctx : Context) :
    ctx.advance (List.replicate 3 '\t' ++ rest) = (ctx, none) := by
  have deep : depth (List.replicate 3 '\t' ++ rest) = depth rest + 3 := by simp [depth]
  unfold advance
  split
  · rfl
  · rw [deep]
    rfl

theorem advance_of_isIdle (h : IsIdle line) (ctx : Context) :
    ctx.advance (Text.dropLineEnd line) = (ctx, none) := by
  rcases h with blank | comment | ⟨rest, rfl⟩
  · exact advance_of_isSilent (isSilent_dropLineEnd (.inl blank)) ctx
  · exact advance_of_isSilent (isSilent_dropLineEnd (.inr comment)) ctx
  · have kept : Text.dropLineEnd (List.replicate 3 '\t' ++ rest) =
        List.replicate 3 '\t' ++ Text.dropLineEnd rest := by
      have tab := Text.dropLineEnd_append_cons ['\t', '\t'] (c := '\t') (by decide) rest
      exact tab
    rw [kept]
    exact advance_of_deep _ ctx

/-- Lines of a file, read from a context on, of which some are left out that add nothing where they
stand in the file. -/
inductive LeavesOut : Context → (lines left : List Text) → Prop where
  | nil (ctx : Context) : LeavesOut ctx [] []
  | kept {ctx : Context} {lines left : List Text} (line : Text)
      (rest : LeavesOut (ctx.advance (Text.dropLineEnd line)).1 lines left) :
      LeavesOut ctx (line :: lines) (line :: left)
  | omitted {ctx : Context} {lines left : List Text} (line : Text)
      (nothing : (ctx.advance (Text.dropLineEnd line)).2 = none)
      (rest : LeavesOut (ctx.advance (Text.dropLineEnd line)).1 lines left) :
      LeavesOut ctx (line :: lines) left

/-- The lines of a file that add an entry where they stand. -/
def telling (ctx : Context) : List Text → List Text
  | [] => []
  | line :: rest =>
    let next := ctx.advance (Text.dropLineEnd line)
    if next.2.isSome then line :: next.1.telling rest else next.1.telling rest

theorem leavesOut_telling (ctx : Context) (lines : List Text) :
    LeavesOut ctx lines (ctx.telling lines) := by
  induction lines generalizing ctx with
  | nil => exact .nil ctx
  | cons line rest ih =>
    rw [telling]
    split
    · exact .kept line (ih _)
    · rename_i nothing
      exact .omitted line (by simpa using nothing) (ih _)

theorem leavesOut_filter (ctx : Context) (lines : List Text) :
    LeavesOut ctx lines (lines.filter fun line => !decide (IsIdle line)) := by
  induction lines generalizing ctx with
  | nil => exact .nil ctx
  | cons line rest ih =>
    rw [List.filter_cons]
    split
    · exact .kept line (ih _)
    · rename_i idle
      have nothing := advance_of_isIdle (by simpa using idle) ctx
      exact .omitted line (by rw [nothing]) (ih _)

/-- What is left adds the entries of all lines: behind a line that is left out the context is what
it was in front of it. -/
theorem LeavesOut.entries_eq (h : LeavesOut ctx lines left) :
    ctx.entries (left.map Text.dropLineEnd) = ctx.entries (lines.map Text.dropLineEnd) := by
  induction h with
  | nil ctx => rfl
  | kept line rest ih => rw [List.map_cons, List.map_cons, entries_cons, entries_cons, ih]
  | omitted line nothing rest ih =>
    rw [advance_of_none nothing] at ih
    rw [List.map_cons, entries_cons, advance_of_none nothing, ih]
    rfl

end Context

namespace Database

theorem ofLines_of_leavesOut {lines left : List Text}
    (h : Context.LeavesOut .initial lines left) (source : Option Text) :
    ofLines left source = ofLines lines source := by
  rw [ofLines_eq_insertAll, ofLines_eq_insertAll, h.entries_eq]

/-- Files that are the same but for idle lines make the same database. -/
theorem ofLines_congr_of_idle {lines lines' : List Text}
    (h : (lines.filter fun line => !decide (IsIdle line)) =
      lines'.filter fun line => !decide (IsIdle line)) (source : Option Text) :
    ofLines lines source = ofLines lines' source := by
  rw [← ofLines_of_leavesOut (Context.leavesOut_filter .initial lines), h,
    ofLines_of_leavesOut (Context.leavesOut_filter .initial lines')]

/-- A line that adds nothing changes nothing. So the lines of a file that add nothing where they
stand make no difference to the database, left out all together or some of them, and neither do
idle lines, put in or left out anywhere. -/
theorem ofLines_without_idle :
    (∀ (ctx : Context) (line : Text), (ctx.advance line).2 = none → (ctx.advance line).1 = ctx) ∧
    (∀ (lines : List Text) (source : Option Text),
      ofLines (Context.initial.telling lines) source = ofLines lines source) ∧
    (∀ (lines left : List Text) (source : Option Text), Context.LeavesOut .initial lines left →
      ofLines left source = ofLines lines source) ∧
    ∀ (lines lines' : List Text) (source : Option Text),
      (lines.filter fun line => !decide (IsIdle line)) =
        (lines'.filter fun line => !decide (IsIdle line)) →
      ofLines lines source = ofLines lines' source := by
  refine ⟨?_, ?_, ?_, ?_⟩
  · intro ctx line nothing
    rw [Context.advance_of_none nothing]
  · intro lines source
    exact ofLines_of_leavesOut (Context.leavesOut_telling .initial lines) source
  · intro lines left source h
    exact ofLines_of_leavesOut h source
  · intro lines lines' source same
    exact ofLines_congr_of_idle same source

/-- A subsystem in front of every device and a device without a name add nothing where they stand;
with the former alone left out, and with a comment and a deep line put in, the database is the
same. A context that no lines lead to is kept as well. -/
theorem ofLines_without_idle_sample :
    let lines := ["8086  Intel".toList, "\t\t1af4 1100  Qemu".toList, "\t1237  440FX".toList,
      "\t7000 PIIX3".toList, "\t\t1af4 1100  Qemu".toList]
    let fewer := ["8086  Intel".toList, "\t1237  440FX".toList, "\t7000 PIIX3".toList,
      "\t\t1af4 1100  Qemu".toList]
    let told := ["8086  Intel".toList, "\t1237  440FX".toList, "\t\t1af4 1100  Qemu".toList]
    let padded := ["8086  Intel".toList, "#\n".toList, "\t\t1af4 1100  Qemu".toList,
      "\t1237  440FX".toList, "\t7000 PIIX3".toList, "\t\t\t1  Deep".toList,
      "\t\t1af4 1100  Qemu".toList]
    let stray : Context := ⟨.inDevice, none, none, some "06".toList, none⟩
    ((stray.advance "\t04 PCI bridge".toList).2 = none ∧
      (stray.advance "\t04 PCI bridge".toList).1 = stray) ∧
    (Context.initial.telling lines = told ∧ ofLines told none = ofLines lines none) ∧
    (Context.LeavesOut .initial lines fewer ∧ ofLines fewer none = ofLines lines none) ∧
    ofLines padded none = ofLines lines none := by
  intro lines fewer told padded stray
  obtain ⟨still, all, some, idle⟩ := ofLines_without_idle
  have nothing : (stray.advance "\t04 PCI bridge".toList).2 = none := by decide +kernel
  have telling : Context.initial.telling lines = told := by decide +kernel
  have omits : Context.LeavesOut .initial lines fewer :=
    .kept _ (.omitted _ (by decide +kernel) (.kept _ (.kept _ (.kept _ (.nil _)))))
  have same : (padded.filter fun line => !decide (IsIdle line)) =
      lines.filter fun line => !decide (IsIdle line) := by decide +kernel
  refine ⟨⟨nothing, still stray _ nothing⟩, ⟨telling, ?_⟩, ⟨omits, some _ _ none omits⟩,
    idle _ _ none same⟩
  rw [← telling]
  exact all lines none

end Database

end PciInventory
