import PciInventory.Proofs.Number.Worth
import PciInventory.Proofs.Sink.Run

/-!
# Values of observations

Whatever the files of a run hold, the values that get into the sink are finite, and those whose
metric has a range are in it. A link attribute's value is checked where its text is read; a module's
size and reference count would have ended the poll if they were too large. The values are in the form
in which numbers of the format are kept, and the labels of an observation have different names.
-/
namespace PciInventory

namespace Binary64

theorem equals_self {x : Binary64} (h : x.isFinite = true) : x.equals x = true := by
  cases x with
  | finite negative m e => simp [equals]
  | infinite negative => cases h
  | notANumber => cases h

theorem isFinite_of_equals {x y : Binary64} (h : x.equals y = true) : x.isFinite = true := by
  cases x with
  | finite negative m e => rfl
  | infinite negative => simp [equals] at h
  | notANumber => simp [equals] at h

theorem isFinite_ofInt_of_le {n : Int} (small : n.natAbs ≤ 4) : (ofInt n).isFinite = true := by
  have bound : 4 < overflowBound := by decide +kernel
  exact (isFinite_ofInt n).2 (by omega)

theorem canonical_ofInt (n : Int) : (ofInt n).Canonical := (rounds_ofInt n).canonical

/-- A number is equal to one of some whole numbers. -/
def IsAmong (ns : List Int) (x : Binary64) : Prop := ∃ n ∈ ns, x.equals (ofInt n) = true

end Binary64

open Binary64

theorem isFinite_of_readQuantity {quantity : Quantity} {raw literal : Text} {x : Binary64}
    (h : readQuantity quantity raw literal = .ok x) : x.isFinite = true := by
  unfold readQuantity at h
  split at h
  · cases h
  · split at h
    · rename_i finite
      cases h
      exact finite
    · cases h

theorem canonical_of_readQuantity {quantity : Quantity} {raw literal : Text} {x : Binary64}
    (h : readQuantity quantity raw literal = .ok x) : x.Canonical := by
  unfold readQuantity at h
  split at h
  · cases h
  · split at h
    · cases h
      exact (Literal.rounds_toBinary64 _).canonical
    · cases h

theorem canonical_of_parsePowerState {raw : Text} {x : Binary64} (h : parsePowerState raw = .ok x) :
    x.Canonical := by
  simp only [parsePowerState] at h
  split at h
  · split at h
    · cases h
      exact (Literal.rounds_toBinary64 _).canonical
    · cases h
  · split at h
    · cases h
      exact canonical_ofInt _
    · cases h

theorem canonical_of_parseFlag {raw : Text} {x : Binary64} (h : parseFlag raw = .ok x) :
    x.Canonical := by
  unfold parseFlag at h
  split at h
  · cases h
  · rename_i read
    split at h
    · cases h
      exact canonical_of_readQuantity read
    · cases h

theorem powerWord?_lt {t : Text} {n : Nat} (h : powerWord? t = some n) : n < 5 := by
  simp only [powerWord?] at h
  split at h
  · rename_i found
    cases h
    exact found
  · cases h

theorem isAmong_of_parsePowerState {raw : Text} {x : Binary64} (h : parsePowerState raw = .ok x) :
    x.IsAmong [0, 1, 2, 3, 4] := by
  simp only [parsePowerState] at h
  split at h
  · split at h
    · rename_i among
      cases h
      exact List.any_eq_true.1 among
    · cases h
  · split at h
    · rename_i n word
      cases h
      have small := powerWord?_lt word
      refine ⟨n, ?_, equals_self (isFinite_ofInt_of_le (by omega))⟩
      simp only [List.mem_cons, List.not_mem_nil, or_false]
      omega
    · cases h

theorem isAmong_of_parseFlag {raw : Text} {x : Binary64} (h : parseFlag raw = .ok x) :
    x.IsAmong [0, 1] := by
  unfold parseFlag at h
  split at h
  · cases h
  · split at h
    · rename_i among
      cases h
      exact List.any_eq_true.1 among
    · cases h

theorem Binary64.IsAmong.isFinite {ns : List Int} {x : Binary64} (h : x.IsAmong ns) :
    x.isFinite = true := by
  obtain ⟨n, -, same⟩ := h
  exact isFinite_of_equals same

theorem LinkAttribute.isFinite_of_parse {a : LinkAttribute} {t : Text} {x : Binary64}
    (h : a.parse t = .ok x) : x.isFinite = true := by
  cases a with
  | currentSpeed => exact isFinite_of_readQuantity h
  | currentWidth => exact isFinite_of_readQuantity h
  | maxSpeed => exact isFinite_of_readQuantity h
  | maxWidth => exact isFinite_of_readQuantity h
  | powerState => exact (isAmong_of_parsePowerState h).isFinite
  | d3coldAllowed => exact (isAmong_of_parseFlag h).isFinite

theorem LinkAttribute.canonical_of_parse {a : LinkAttribute} {t : Text} {x : Binary64}
    (h : a.parse t = .ok x) : x.Canonical := by
  cases a with
  | currentSpeed => exact canonical_of_readQuantity h
  | currentWidth => exact canonical_of_readQuantity h
  | maxSpeed => exact canonical_of_readQuantity h
  | maxWidth => exact canonical_of_readQuantity h
  | powerState => exact canonical_of_parsePowerState h
  | d3coldAllowed => exact canonical_of_parseFlag h

/-- A finite number, in the range of a metric, if the metric has one. -/
structure IsInRange (metric : Text) (x : Binary64) : Prop where
  finite : x.isFinite = true
  info : metric = "pciscope_pcie_device_info".toList → x.IsAmong [1]
  powerState : metric = "pciscope_pcie_slot_power_state".toList → x.IsAmong [0, 1, 2, 3, 4]
  d3coldAllowed : metric = "pciscope_pcie_slot_d3cold_allowed".toList → x.IsAmong [0, 1]
  moduleState : metric = "pciscope_kernel_module_state".toList → x.IsAmong [-1, 0, 1]

/-- The metrics that have a range. -/
def rangedMetrics : List Text :=
  ["pciscope_pcie_device_info".toList, "pciscope_pcie_slot_power_state".toList,
    "pciscope_pcie_slot_d3cold_allowed".toList, "pciscope_kernel_module_state".toList]

theorem isInRange_of_unranged {metric : Text} {x : Binary64} (finite : x.isFinite = true)
    (other : metric ∉ rangedMetrics) : IsInRange metric x := by
  refine ⟨finite, ?_, ?_, ?_, ?_⟩
  all_goals
    rintro rfl
    exact absurd (by decide) other

/-- What holds of every observation that a collector makes: its value is in range and in the form in
which numbers are kept, and no two of its labels have one name. -/
structure Observation.IsProper (o : Observation) : Prop where
  inRange : IsInRange o.name o.value
  canonical : o.value.Canonical
  nodup : (o.labels.map Prod.fst).Nodup

theorem Binary64.isAmong_ofInt {ns : List Int} {n : Int} (mem : n ∈ ns) (small : n.natAbs ≤ 4) :
    (ofInt n).IsAmong ns :=
  ⟨n, mem, equals_self (isFinite_ofInt_of_le small)⟩

theorem isInRange_info : IsInRange infoMetric (.ofInt 1) := by
  have one : (ofInt 1).IsAmong [1] := isAmong_ofInt (List.mem_singleton_self 1) (by decide)
  refine ⟨one.isFinite, fun _ => one, ?_, ?_, ?_⟩
  all_goals
    intro named
    exact absurd named (by decide)

theorem DeviceRecord.isProper_info (r : DeviceRecord) : r.info.IsProper where
  inRange := isInRange_info
  canonical := canonical_ofInt 1
  nodup := by
    have names : r.info.labels.map Prod.fst =
        ["slot", "vendor_id", "vendor_name", "device_id", "device_name", "subsystem_vendor_id",
          "subsystem_vendor_name", "subsystem_device_id", "subsystem_device_name", "class_id",
          "class", "revision"].map String.toList := rfl
    rw [names]
    decide

/-- The number that is read for a link attribute is in the range of its metric. -/
theorem LinkAttribute.isInRange {a : LinkAttribute} {t : Text} {x : Binary64}
    (h : a.parse t = .ok x) : IsInRange a.metric x := by
  have finite := a.isFinite_of_parse h
  cases a with
  | powerState =>
    refine ⟨finite, ?_, fun _ => isAmong_of_parsePowerState h, ?_, ?_⟩
    all_goals exact fun named => absurd named (by decide)
  | d3coldAllowed =>
    refine ⟨finite, ?_, ?_, fun _ => isAmong_of_parseFlag h, ?_⟩
    all_goals exact fun named => absurd named (by decide)
  | _ => exact isInRange_of_unranged finite (by decide)

theorem PcieCollector.isProper_of_mem {c : PcieCollector} {tree : FileTree}
    {fault : Text → Option Failure} {slot : Text} {r : DeviceRecord}
    (told : (c.collectUnless tree fault slot).result = .ok r) {o : Observation}
    (ho : o ∈ r.observations) : o.IsProper := by
  rcases List.mem_cons.1 ho with rfl | ho
  · exact r.isProper_info
  · obtain ⟨a, -, found⟩ := List.mem_filterMap.1 ho
    obtain ⟨x, number, rfl⟩ := Option.map_eq_some_iff.1 found
    rw [result_collectUnless] at told
    cases hf : fault slot with
    | some e => simp [hf] at told
    | none =>
      cases read : readDevice tree c.root slot with
      | error e => simp [hf, read, Except.map] at told
      | ok texts =>
        obtain rfl : c.record slot texts = r := by simpa [hf, read, Except.map] using told
        have parsed := (LinkAttribute.value?_read.1 number).2
        exact ⟨a.isInRange parsed, a.canonical_of_parse parsed, List.nodup_singleton _⟩

/-- A module as it can be read from a row. -/
structure KernelModule.IsSound (m : KernelModule) : Prop where
  size : m.size.isFinite = true
  refcount : m.refcount.isFinite = true
  state : m.state.IsAmong [-1, 0, 1]
  canonical : m.size.Canonical ∧ m.refcount.Canonical ∧ m.state.Canonical

theorem moduleState?_mem {t : Text} {n : Int} (h : moduleState? t = some n) :
    n ∈ [(-1 : Int), 0, 1] := by
  unfold moduleState? at h
  split at h
  · cases h
    decide
  · split at h
    · cases h
      decide
    · split at h
      · cases h
        decide
      · cases h

theorem ModuleRow.isSound_of_ofState {name state : Text} {size refcount : Int} {m : KernelModule}
    (hs : (ofInt size).isFinite = true) (hr : (ofInt refcount).isFinite = true)
    (h : ofState name (.ofInt size) (.ofInt refcount) state = .row m) : m.IsSound := by
  unfold ofState at h
  split at h
  · rename_i n known
    cases h
    have mem := moduleState?_mem known
    have small : n.natAbs ≤ 4 := by
      simp only [List.mem_cons, List.not_mem_nil, or_false] at mem
      omega
    exact ⟨hs, hr, isAmong_ofInt mem small, canonical_ofInt _, canonical_ofInt _, canonical_ofInt _⟩
  · cases h

theorem ModuleRow.isSound_of_read {line : Text} {m : KernelModule} (h : read line = .row m) :
    m.IsSound := by
  unfold read at h
  split at h
  · split at h
    · cases h
    · split at h
      · rename_i size
        split at h
        · cases h
        · split at h
          · rename_i refcount
            exact isSound_of_ofState size refcount h
          · cases h
      · cases h
  · cases h

theorem isSound_of_readModuleRows {lines : List Text} {ms : List KernelModule}
    (h : (readModuleRows lines).result = .ok ms) : ∀ m ∈ ms, m.IsSound := by
  induction lines generalizing ms with
  | nil =>
    cases h
    simp
  | cons line rest ih =>
    cases row : ModuleRow.read line with
    | tooShort => exact ih (by simpa only [readModuleRows, row] using h)
    | dropped why => exact ih (by simpa only [readModuleRows, row] using h)
    | tooLarge => simp [readModuleRows, row, Logged.silent] at h
    | row m =>
      simp only [readModuleRows, row] at h
      cases later : (readModuleRows rest).result with
      | error e => simp [later, Except.map] at h
      | ok ms' =>
        simp only [later, Except.map, Except.ok.injEq] at h
        subst h
        exact List.forall_mem_cons.2 ⟨ModuleRow.isSound_of_read row, ih later⟩

theorem isSound_of_readModuleBytes {bytes : List UInt8} {ms : List KernelModule}
    (h : (readModuleBytes bytes).result = .ok ms) : ∀ m ∈ ms, m.IsSound := by
  unfold readModuleBytes at h
  split at h
  · exact isSound_of_readModuleRows h
  · simp only [Logged.andThen, Logged.silent] at h
    split at h
    · cases h
    · cases h

theorem ModuleCollector.isSound_of_readModules {c : ModuleCollector} {tree : FileTree}
    {ms : List KernelModule} (h : (c.readModules tree).result = .ok ms) : ∀ m ∈ ms, m.IsSound := by
  unfold readModules at h
  split at h
  · split at h
    · cases h
    · exact isSound_of_readModuleBytes h
  · cases h

theorem KernelModule.IsSound.isProper {m : KernelModule} (h : m.IsSound) {o : Observation}
    (ho : o ∈ m.observations) : o.IsProper := by
  have state : IsInRange moduleStateMetric m.state := by
    refine ⟨h.state.isFinite, ?_, ?_, ?_, fun _ => h.state⟩
    all_goals exact fun named => absurd named (by decide)
  have size : IsInRange moduleSizeMetric m.size := isInRange_of_unranged h.size (by decide)
  have refcount : IsInRange moduleRefcountMetric m.refcount :=
    isInRange_of_unranged h.refcount (by decide)
  simp only [observations, List.mem_cons, List.not_mem_nil, or_false] at ho
  obtain ⟨keptSize, keptRefcount, keptState⟩ := h.canonical
  rcases ho with rfl | rfl | rfl
  · exact ⟨state, keptState, List.nodup_singleton _⟩
  · exact ⟨size, keptSize, List.nodup_singleton _⟩
  · exact ⟨refcount, keptRefcount, List.nodup_singleton _⟩

/-- What a turn leaves is proper. -/
theorem Turn.isProper_of_mem {t : Turn} {o : Observation} (ho : o ∈ t.observations) :
    o.IsProper := by
  have left := t.leaves
  generalize t.observations = os, t.count = n at left ho
  cases left with
  | nothing => cases ho
  | devices told =>
    obtain ⟨r, hr, ho⟩ := List.mem_flatMap.1 ho
    obtain ⟨slot, told⟩ := told r hr
    exact PcieCollector.isProper_of_mem told ho
  | modules read =>
    obtain ⟨m, hm, ho⟩ := List.mem_flatMap.1 ho
    exact (ModuleCollector.isSound_of_readModules read m hm).isProper ho

theorem Sink.isProper_of_mem_run {turns : List Turn} {o : Observation}
    (ho : o ∈ (Sink.empty.run turns).1.observations) : o.IsProper := by
  rw [observations_run, empty, List.nil_append] at ho
  obtain ⟨t, -, ho⟩ := List.mem_flatMap.1 ho
  exact t.isProper_of_mem ho

end PciInventory
