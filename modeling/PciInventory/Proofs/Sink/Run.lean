import Mathlib.Algebra.GroupWithZero.Nat
import Mathlib.Data.List.Infix
import PciInventory.Proofs.Device.Locality
import PciInventory.Proofs.Sink.Emission

/-!
# Runs of polls into one sink

Collectors of both kinds poll any number of times into one sink, while the files change between two
polls as they like. The sink only grows, a poll that fails leaves no trace in it, and the counts
that the other polls return add up to what is in it: one observation that tells what a device is for
each device, and for each module three in a row under its name.

Nothing is said here of the values of the observations.
-/
namespace PciInventory

/-- One poll of a run: a collector, the files as it finds them, and the faults from outside that
keep devices from being told about. -/
structure Turn where
  collector : Collector
  tree : FileTree
  fault : Text → Option Failure

namespace Turn

def emit : Turn → Emitting Nat
  | ⟨.pcie c, tree, fault⟩ => c.emitWith (c.collectUnless tree fault) tree
  | ⟨.kernelModules c, tree, _⟩ => c.emitAll tree

def polled : Turn → Except Failure Poll
  | ⟨.pcie c, tree, fault⟩ => (c.pollWith (c.collectUnless tree fault) tree).result
  | ⟨.kernelModules c, tree, _⟩ => (c.poll tree).result

/-- What a turn leaves in a sink: the observations of its poll, unless it fails. -/
def observations (t : Turn) : List Observation := t.polled.toOption.elim [] Poll.observations

/-- The number of things that a turn polls, unless it fails. -/
def count (t : Turn) : Nat := t.polled.toOption.elim 0 Poll.count

/-- A turn without faults from outside. -/
def plain (tree : FileTree) (c : Collector) : Turn := ⟨c, tree, fun _ => none⟩

theorem polled_plain (tree : FileTree) (c : Collector) :
    (plain tree c).polled = (c.poll tree).result := by
  cases c <;> rfl

theorem perform_emit (t : Turn) (s : Sink) : t.emit.perform s = s.update t.polled := by
  obtain ⟨c | c, tree, fault⟩ := t
  · exact c.perform_emitWith tree s
  · exact c.perform_emitAll tree s

/-- A turn adds its observations to what is in the sink. -/
theorem observations_perform_emit (t : Turn) (s : Sink) :
    (t.emit.perform s).1.observations = s.observations ++ t.observations := by
  rw [perform_emit, observations]
  cases t.polled with
  | error e => simp [Sink.update, Except.toOption]
  | ok p => rfl

end Turn

/-- The sink after some turns, and what each poll returned, with the kind of its collector. -/
def Sink.run (s : Sink) : List Turn → Sink × List (CollectorKind × Except Failure Nat)
  | [] => (s, [])
  | t :: rest =>
    let here := t.emit.perform s
    let later := here.1.run rest
    (later.1, (t.collector.kind, here.2) :: later.2)

/-- The sum of the counts that the polls of one kind of collector returned. -/
def tally (kind : CollectorKind) : List (CollectorKind × Except Failure Nat) → Nat
  | [] => 0
  | (k, .ok n) :: rest => (if k = kind then n else 0) + tally kind rest
  | (_, .error _) :: rest => tally kind rest

theorem Sink.observations_run (s : Sink) (turns : List Turn) :
    (s.run turns).1.observations = s.observations ++ turns.flatMap Turn.observations := by
  induction turns generalizing s with
  | nil => simp [run]
  | cons t rest ih => rw [run, ih, Turn.observations_perform_emit]; simp

theorem Sink.tally_run (s : Sink) (turns : List Turn) (kind : CollectorKind) :
    tally kind (s.run turns).2 =
      (turns.map fun t => if t.collector.kind = kind then t.count else 0).sum := by
  induction turns generalizing s with
  | nil => rfl
  | cons t rest ih =>
    rw [run, List.map_cons, List.sum_cons, ← ih (t.emit.perform s).1]
    cases h : t.polled with
    | error e => simp [Turn.perform_emit, h, Sink.update, tally, Turn.count, Except.toOption]
    | ok p => simp [Turn.perform_emit, h, Sink.update, tally, Turn.count, Except.toOption]

/-- What a turn can leave, with the number of things polled: nothing, or what the devices report
that can be told about, or what the modules do that are in the list. -/
inductive Turn.Leaves : Turn → List Observation → Nat → Prop where
  | nothing {t : Turn} {e : Failure} (failed : t.polled = .error e) : Leaves t [] 0
  | devices {c : PcieCollector} {tree : FileTree} {fault : Text → Option Failure}
      {rs : List DeviceRecord}
      (told : ∀ r ∈ rs, ∃ slot, (c.collectUnless tree fault slot).result = .ok r) :
      Leaves ⟨.pcie c, tree, fault⟩ (rs.flatMap DeviceRecord.observations) rs.length
  | modules {c : ModuleCollector} {tree : FileTree} {fault : Text → Option Failure}
      {ms : List KernelModule} (read : (c.readModules tree).result = .ok ms) :
      Leaves ⟨.kernelModules c, tree, fault⟩ (ms.flatMap KernelModule.observations) ms.length

theorem PcieCollector.exists_told (collect : Text → Logged (Except Failure DeviceRecord))
    (slots : List Text) : ∃ rs : List DeviceRecord,
      (slots.map (pollDevice collect)).filterMap (·.result) =
        rs.map DeviceRecord.observations ∧
      ∀ r ∈ rs, ∃ slot, (collect slot).result = .ok r := by
  induction slots with
  | nil => exact ⟨[], rfl, by simp⟩
  | cons slot rest ih =>
    obtain ⟨rs, told, each⟩ := ih
    cases device : (collect slot).result with
    | ok r =>
      refine ⟨r :: rs, ?_, List.forall_mem_cons.2 ⟨⟨slot, device⟩, each⟩⟩
      simp [pollDevice, device, ← told]
    | error e =>
      refine ⟨rs, ?_, each⟩
      simp [pollDevice, device, ← told]

theorem Turn.leaves (t : Turn) : t.Leaves t.observations t.count := by
  unfold observations count
  cases h : t.polled with
  | error e => exact .nothing h
  | ok p =>
    obtain ⟨c | c, tree, fault⟩ := t
    · simp only [polled, PcieCollector.pollWith] at h
      cases listed : listDevices tree c.root with
      | error e => simp [listed, Logged.silent] at h
      | ok slots =>
        obtain ⟨rs, told, each⟩ := PcieCollector.exists_told (c.collectUnless tree fault) slots
        simp only [listed, told, Except.ok.injEq] at h
        subst h
        simpa [Except.toOption, List.flatMap_def] using Leaves.devices each
    · simp only [polled, ModuleCollector.poll] at h
      cases read : (c.readModules tree).result with
      | error e => simp [read, Except.map] at h
      | ok ms =>
        simp only [read, Except.map, Except.ok.injEq] at h
        subst h
        exact .modules read

/-- A metric that is reported once for each thing which collectors of a kind poll, and for nothing
else. -/
structure CountsOnce (kind : CollectorKind) (name : Text) : Prop where
  devices : ∀ r : DeviceRecord, (r.observations.filter fun o => decide (o.name = name)).length =
    if kind = .pcie then 1 else 0
  modules : ∀ m : KernelModule, (m.observations.filter fun o => decide (o.name = name)).length =
    if kind = .kernelModules then 1 else 0

theorem DeviceRecord.name_of_linkObservation? {r : DeviceRecord} {a : LinkAttribute}
    {o : Observation} (h : r.linkObservation? a = some o) : o.name = a.metric := by
  obtain ⟨x, -, rfl⟩ := Option.map_eq_some_iff.1 h
  rfl

/-- The observations of a device that have a name which no link attribute's metric has. -/
theorem DeviceRecord.filter_name_observations (r : DeviceRecord) {name : Text}
    (noLink : ∀ a : LinkAttribute, a.metric ≠ name) :
    (r.observations.filter fun o => decide (o.name = name)) =
      if infoMetric = name then [r.info] else [] := by
  have links : (LinkAttribute.all.filterMap r.linkObservation?).filter
      (fun o => decide (o.name = name)) = [] := by
    refine List.filter_eq_nil_iff.2 fun o ho => ?_
    obtain ⟨a, -, found⟩ := List.mem_filterMap.1 ho
    simpa [r.name_of_linkObservation? found] using noLink a
  rw [observations, List.filter_cons, links]
  by_cases h : infoMetric = name <;> simp [info, h]

theorem countsOnce_info : CountsOnce .pcie "pciscope_pcie_device_info".toList where
  devices r := by
    exact congrArg List.length
      (r.filter_name_observations fun a => (a.metric_ne_infoMetric).symm)
  modules m := rfl

/-- The metrics of the modules, in the order in which they are reported. -/
def moduleMetrics : List Text :=
  ["pciscope_kernel_module_state".toList, "pciscope_kernel_module_size_bytes".toList,
    "pciscope_kernel_module_refcount".toList]

theorem metric_not_mem_moduleMetrics (a : LinkAttribute) : a.metric ∉ moduleMetrics := by
  cases a <;> decide

theorem countsOnce_module {name : Text} (h : name ∈ moduleMetrics) :
    CountsOnce .kernelModules name where
  devices r := by
    have noLink (a : LinkAttribute) : a.metric ≠ name := by
      rintro rfl
      exact metric_not_mem_moduleMetrics a h
    have noInfo : infoMetric ≠ name := by
      rintro rfl
      exact absurd h (by decide)
    rw [r.filter_name_observations noLink, if_neg noInfo]
    rfl
  modules m := by
    simp only [moduleMetrics, List.mem_cons, List.not_mem_nil, or_false] at h
    rcases h with rfl | rfl | rfl <;> rfl

theorem length_filter_flatMap {A : Type} {observe : A → List Observation} {p : Observation → Bool}
    {k : Nat} (each : ∀ a, ((observe a).filter p).length = k) (as : List A) :
    ((as.flatMap observe).filter p).length = as.length * k := by
  rw [List.filter_flatMap, List.length_flatMap]
  simp [each]

namespace CountsOnce
variable {kind : CollectorKind} {name : Text}

theorem length_filter_observations (h : CountsOnce kind name) (t : Turn) :
    (t.observations.filter fun o => decide (o.name = name)).length =
      if t.collector.kind = kind then t.count else 0 := by
  have left := t.leaves
  generalize t.observations = os, t.count = n at left
  cases left with
  | nothing => simp
  | devices =>
    rw [length_filter_flatMap h.devices]
    cases kind <;> simp [Collector.kind]
  | modules =>
    rw [length_filter_flatMap h.modules]
    cases kind <;> simp [Collector.kind]

/-- A run leaves as many observations of the metric as the polls of the kind returned. -/
theorem length_named_run (h : CountsOnce kind name) (turns : List Turn) :
    ((Sink.empty.run turns).1.named name).length = tally kind (Sink.empty.run turns).2 := by
  rw [Sink.tally_run, Sink.named, Sink.observations_run, Sink.empty, List.nil_append,
    List.filter_flatMap, List.length_flatMap]
  simp only [h.length_filter_observations]

end CountsOnce

/-- Observations among which the metrics of the modules come three in a row under one name. -/
inductive InTriples : List Observation → Prop where
  | nil : InTriples []
  | other {o : Observation} {os : List Observation} (foreign : o.name ∉ moduleMetrics)
      (rest : InTriples os) : InTriples (o :: os)
  | triple (name : Text) (state size refcount : Binary64) {os : List Observation}
      (rest : InTriples os) :
      InTriples (⟨"pciscope_kernel_module_state".toList, [("module".toList, name)], state⟩ ::
        ⟨"pciscope_kernel_module_size_bytes".toList, [("module".toList, name)], size⟩ ::
        ⟨"pciscope_kernel_module_refcount".toList, [("module".toList, name)], refcount⟩ :: os)

namespace InTriples
variable {os os' : List Observation}

theorem append (h : InTriples os) (h' : InTriples os') : InTriples (os ++ os') := by
  induction h with
  | nil => exact h'
  | other foreign _ ih => exact .other foreign ih
  | triple name state size refcount _ ih => exact .triple name state size refcount ih

theorem flatMap {A : Type} {observe : A → List Observation} (each : ∀ a, InTriples (observe a))
    (as : List A) : InTriples (as.flatMap observe) := by
  induction as with
  | nil => exact .nil
  | cons a rest ih =>
    rw [List.flatMap_cons]
    exact (each a).append ih

theorem of_forall (foreign : ∀ o ∈ os, o.name ∉ moduleMetrics) : InTriples os := by
  induction os with
  | nil => exact .nil
  | cons o rest ih =>
    obtain ⟨here, later⟩ := List.forall_mem_cons.1 foreign
    exact .other here (ih later)

theorem of_device (r : DeviceRecord) : InTriples r.observations := by
  refine of_forall fun o ho => ?_
  rcases List.mem_cons.1 ho with rfl | ho
  · exact (by decide : infoMetric ∉ moduleMetrics)
  · obtain ⟨a, -, found⟩ := List.mem_filterMap.1 ho
    rw [r.name_of_linkObservation? found]
    exact metric_not_mem_moduleMetrics a

theorem of_module (m : KernelModule) : InTriples m.observations :=
  .triple m.name m.state m.size m.refcount .nil

theorem of_turn (t : Turn) : InTriples t.observations := by
  have left := t.leaves
  generalize t.observations = os, t.count = n at left
  cases left with
  | nothing => exact .nil
  | devices => exact flatMap of_device _
  | modules => exact flatMap of_module _

end InTriples

/-- Whatever is in the sink, a poll leaves it in front of what it adds, and a poll that fails adds
nothing. After every run of polls from an empty sink the counts that were returned add up to what is
in the sink, and the observations of modules come three in a row. -/
theorem Sink.run_addsUp :
    (∀ (s : Sink) (t : Turn), s.observations <+: (t.emit.perform s).1.observations ∧
      ∀ e, (t.emit.perform s).2 = .error e → (t.emit.perform s).1 = s) ∧
    ∀ turns : List Turn,
      let ran := Sink.empty.run turns
      (ran.1.named "pciscope_pcie_device_info".toList).length = tally .pcie ran.2 ∧
      (∀ name ∈ moduleMetrics, (ran.1.named name).length = tally .kernelModules ran.2) ∧
      InTriples ran.1.observations := by
  refine ⟨fun s t => ⟨?_, ?_⟩, fun turns => ⟨?_, ?_, ?_⟩⟩
  · rw [t.observations_perform_emit]
    exact List.prefix_append _ _
  · intro e failed
    rw [t.perform_emit] at failed ⊢
    cases polled : t.polled with
    | error e => rfl
    | ok p => simp [polled, Sink.update] at failed
  · exact countsOnce_info.length_named_run turns
  · exact fun name h => (countsOnce_module h).length_named_run turns
  · rw [Sink.observations_run, Sink.empty, List.nil_append]
    exact InTriples.flatMap InTriples.of_turn turns

end PciInventory
