import PciInventory.ObservationTable
import PciInventory.Proofs.Sink.Run
import PciInventory.Proofs.Text.Delimiting
import PciInventory.Proofs.Text.Trimming

/-!
# Labels in one cell

The cell that shows an observation's labels belongs to these labels and to no others, if none of
their names has an equals sign in it. No collector gives a label such a name. The values may hold
what they like, the text of further labels too: a name ends at the first equals sign, a value where
its quotes close, and behind a value there is a separator or nothing.

This is about the cell as it is joined; how the terminal draws it is not part of it.
-/
namespace PciInventory

/-- A label whose name has no equals sign in it. -/
def HasPlainName (label : Text × Text) : Prop := '=' ∉ label.1

theorem Text.joinWith_cons (separator t : Text) (ts : List Text) :
    joinWith separator (t :: ts) = t ++ ts.flatMap fun t' => separator ++ t' := by
  induction ts generalizing t with
  | nil => simp [joinWith]
  | cons t' ts ih =>
    have further := ih t'
    rw [joinWith] at further
    rw [joinWith, List.intercalate_cons_cons, further, List.flatMap_cons, List.append_assoc,
      List.append_assoc]

namespace ObservationTable

theorem labelText_ne_nil (label : Text × Text) : labelText label ≠ [] :=
  List.append_ne_nil_of_right_ne_nil _ (List.cons_ne_nil _ _)

/-- A label is known from any text that starts with it: its name ends at the first equals sign, and
its value where the quotes close. -/
theorem delimitsItself_labelText : Text.DelimitsItself HasPlainName labelText := by
  rintro ⟨name, value⟩ ⟨name', value'⟩ s t plain plain' same
  simp only [labelText, List.append_assoc, List.cons_append] at same
  rcases Text.parted_cases same plain with ⟨rfl, values⟩ | ⟨more, rfl, -⟩
  · obtain ⟨rfl, ends⟩ := Text.delimitsItself_quoted trivial trivial values
    exact ⟨rfl, ends.symm⟩
  · exact absurd (List.mem_append_right name List.mem_cons_self) plain'

theorem delimitsItself_separated (separator : Text) :
    Text.DelimitsItself HasPlainName fun label => separator ++ labelText label := by
  intro a b s t plain plain' same
  simp only [List.append_assoc] at same
  exact delimitsItself_labelText plain plain' (List.append_cancel_left same)

theorem labelsCell_cons (label : Text × Text) (labels : Labels) : labelsCell (label :: labels) =
    labelText label ++ labels.flatMap fun l => ", ".toList ++ labelText l := by
  rw [labelsCell, List.map_cons, Text.joinWith_cons, List.flatMap_map]

/-- Labels with plain names are known from their cell. -/
theorem labelsCell_inj {a b : Labels} (ha : ∀ l ∈ a, HasPlainName l)
    (hb : ∀ l ∈ b, HasPlainName l) (same : labelsCell a = labelsCell b) : a = b := by
  have filled (label : Text × Text) (labels : Labels) : labelsCell (label :: labels) ≠ [] := by
    rw [labelsCell_cons]
    exact List.append_ne_nil_of_left_ne_nil (labelText_ne_nil label) _
  cases a with
  | nil =>
    cases b with
    | nil => rfl
    | cons label labels => exact absurd same.symm (filled label labels)
  | cons label labels =>
    cases b with
    | nil => exact absurd same (filled label labels)
    | cons label' labels' =>
      obtain ⟨here, later⟩ := List.forall_mem_cons.1 ha
      obtain ⟨here', later'⟩ := List.forall_mem_cons.1 hb
      rw [labelsCell_cons, labelsCell_cons] at same
      obtain ⟨rfl, rest⟩ := delimitsItself_labelText here here' same
      rw [(delimitsItself_separated _).flatMap_inj
        (fun l _ => List.append_ne_nil_of_right_ne_nil _ (labelText_ne_nil l)) later later' rest]

end ObservationTable

def infoLabelNames : List Text :=
  ["slot", "vendor_id", "vendor_name", "device_id", "device_name", "subsystem_vendor_id",
    "subsystem_vendor_name", "subsystem_device_id", "subsystem_device_name", "class_id", "class",
    "revision"].map String.toList

theorem DeviceRecord.map_fst_infoLabels (r : DeviceRecord) :
    r.infoLabels.map Prod.fst = infoLabelNames := rfl

theorem DeviceRecord.hasPlainName_of_mem {r : DeviceRecord} {o : Observation}
    (ho : o ∈ r.observations) : ∀ l ∈ o.labels, HasPlainName l := by
  intro l hl
  rcases List.mem_cons.1 ho with rfl | ho
  · have named : l.1 ∈ infoLabelNames := r.map_fst_infoLabels ▸ List.mem_map_of_mem hl
    have plain : ∀ name ∈ infoLabelNames, '=' ∉ name := by decide
    exact plain l.1 named
  · obtain ⟨a, -, found⟩ := List.mem_filterMap.1 ho
    obtain ⟨x, -, rfl⟩ := Option.map_eq_some_iff.1 found
    rw [List.mem_singleton.1 hl]
    exact (by decide : '=' ∉ "slot".toList)

theorem KernelModule.hasPlainName_of_mem {m : KernelModule} {o : Observation}
    (ho : o ∈ m.observations) : ∀ l ∈ o.labels, HasPlainName l := by
  intro l hl
  have labels : o.labels = [("module".toList, m.name)] := by
    simp only [observations, List.mem_cons, List.not_mem_nil, or_false] at ho
    rcases ho with rfl | rfl | rfl <;> rfl
  rw [labels, List.mem_singleton] at hl
  rw [hl]
  exact (by decide : '=' ∉ "module".toList)

/-- What a turn leaves has plain names on its labels. -/
theorem Turn.hasPlainName_of_mem {t : Turn} {o : Observation} (ho : o ∈ t.observations) :
    ∀ l ∈ o.labels, HasPlainName l := by
  have left := t.leaves
  generalize t.observations = os, t.count = n at left ho
  cases left with
  | nothing => cases ho
  | devices told =>
    obtain ⟨r, -, ho⟩ := List.mem_flatMap.1 ho
    exact r.hasPlainName_of_mem ho
  | modules read =>
    obtain ⟨m, -, ho⟩ := List.mem_flatMap.1 ho
    exact m.hasPlainName_of_mem ho

/-- Labels whose names have no equals sign in them have one cell only if they are the same labels in
the same order, and every label that a run of polls emits has such a name. -/
theorem ObservationTable.labelsCell_unambiguous :
    (∀ a b : Labels, (∀ l ∈ a, '=' ∉ l.1) → (∀ l ∈ b, '=' ∉ l.1) →
      (labelsCell a = labelsCell b ↔ a = b)) ∧
    ∀ turns : List Turn,
      ∀ o ∈ (Sink.empty.run turns).1.observations, ∀ l ∈ o.labels, '=' ∉ l.1 := by
  constructor
  · intro a b ha hb
    exact ⟨labelsCell_inj ha hb, congrArg labelsCell⟩
  · intro turns o ho
    rw [Sink.observations_run, Sink.empty, List.nil_append] at ho
    obtain ⟨t, -, ho⟩ := List.mem_flatMap.1 ho
    exact t.hasPlainName_of_mem ho

/-- A module whose name looks like the end of one label and the start of another. -/
def forgingTree : FileTree :=
  (FileTree.empty []).put [['m']] (.file (Text.Utf8.encode "a',b='c 1 2 - Live 0".toList))

/-- The one label of such a module does not share its cell with the two labels that it looks
like. -/
theorem ObservationTable.labelsCell_unambiguous_forged :
    let turns : List Turn := [⟨.kernelModules ⟨['m']⟩, forgingTree, fun _ => none⟩]
    let two : Labels := [("module".toList, ['a']), (['b'], ['c'])]
    ∃ o ∈ (Sink.empty.run turns).1.observations,
      o.labels = [("module".toList, "a',b='c".toList)] ∧ labelsCell o.labels ≠ labelsCell two := by
  intro turns two
  have emitted : (⟨moduleStateMetric, [("module".toList, "a',b='c".toList)], .ofInt 1⟩ :
      Observation) ∈ (Sink.empty.run turns).1.observations := by decide +kernel
  refine ⟨_, emitted, rfl, ?_⟩
  have plain := labelsCell_unambiguous.2 turns _ emitted
  have known := labelsCell_unambiguous.1 _ two plain (by decide)
  rw [ne_eq, known]
  decide

end PciInventory
