import Mathlib.Data.List.Basic
import PciInventory.Collector.Basic

/-!
# Polls that emit as they go

A poll may be made one observation at a time: it emits into a sink while it goes on, and what it has
emitted stays in the sink if it fails later. Made in this way, a poll leaves the sink and the answer
that `Sink.update` gives: all of its observations, or none. That is so because a collector is done
with all that can make the poll fail before it emits for the first time; a device that cannot be
told about does not make it fail.
-/
namespace PciInventory

/-- Work on a sink that may fail. What was emitted before a failure stays in the sink. -/
abbrev Emitting := ExceptT Failure (StateM Sink)

namespace Emitting
variable {A B : Type}

def emit (o : Observation) : Emitting Unit := modify fun s => s.emit o

/-- A result that there is without any work on the sink. -/
def ofResult (r : Except Failure A) : Emitting A := ExceptT.mk (pure r)

/-- The sink after some work on it, and what the work came to. -/
def perform (work : Emitting A) (s : Sink) : Sink × Except Failure A :=
  let done := StateT.run (ExceptT.run work) s
  (done.2, done.1)

theorem perform_pure (a : A) (s : Sink) : (pure a : Emitting A).perform s = (s, .ok a) := rfl

theorem perform_emit (o : Observation) (s : Sink) : (emit o).perform s = (s.emit o, .ok ()) := rfl

theorem perform_ofResult (r : Except Failure A) (s : Sink) : (ofResult r).perform s = (s, r) := rfl

/-- Work that follows other work starts on the sink that this leaves, unless this has failed. -/
theorem perform_bind (work : Emitting A) (next : A → Emitting B) (s : Sink) :
    (work >>= next).perform s =
      match work.perform s with
      | (s', .ok a) => (next a).perform s'
      | (s', .error e) => (s', .error e) := by
  simp only [perform, ExceptT.run_bind, StateT.run_bind]
  cases h : (StateT.run (ExceptT.run work) s) with
  | mk result s' => cases result <;> rfl

/-- Steps that each emit some observations emit all of them, in order. -/
theorem perform_forM {step : A → Emitting Unit} {emitted : A → List Observation}
    (each : ∀ a s, (step a).perform s = (s.emitAll (emitted a), .ok ())) (as : List A) (s : Sink) :
    (forM as step).perform s = (s.emitAll (as.flatMap emitted), .ok ()) := by
  induction as generalizing s with
  | nil => simp [perform_pure, Sink.emitAll]
  | cons a rest ih =>
    rw [List.forM_cons, perform_bind, each]
    simp [ih, Sink.emitAll]

end Emitting

open Emitting

namespace DeviceRecord

/-- Emits all that a device is, and then each link attribute that has a number. -/
def emitAll (r : DeviceRecord) : Emitting Unit := do
  emit r.info
  forM LinkAttribute.all fun a =>
    match r.linkObservation? a with
    | some o => emit o
    | none => pure ()

theorem perform_emitAll (r : DeviceRecord) (s : Sink) :
    r.emitAll.perform s = (s.emitAll r.observations, .ok ()) := by
  have link (a : LinkAttribute) (s : Sink) :
      (match r.linkObservation? a with
        | some o => emit o
        | none => pure ()).perform s = (s.emitAll (r.linkObservation? a).toList, .ok ()) := by
    cases r.linkObservation? a with
    | none => simp [perform_pure, Sink.emitAll]
    | some o => rfl
  rw [emitAll, perform_bind, perform_emit]
  simp [perform_forM link, observations, Sink.emit, Sink.emitAll, List.filterMap_eq_flatMap_toList]

end DeviceRecord

namespace PcieCollector
variable {collect : Text → Logged (Except Failure DeviceRecord)}

def emitDevices (collect : Text → Logged (Except Failure DeviceRecord)) (told : Nat) :
    List Text → Emitting Nat
  | [] => pure told
  | slot :: rest =>
    match (collect slot).result with
    | .ok r => do
      r.emitAll
      emitDevices collect (told + 1) rest
    | .error _ => emitDevices collect told rest

def emitWith (c : PcieCollector) (collect : Text → Logged (Except Failure DeviceRecord))
    (tree : FileTree) : Emitting Nat := do
  let slots ← ofResult (listDevices tree c.root)
  emitDevices collect 0 slots

theorem perform_emitDevices (slots : List Text) (told : Nat) (s : Sink) :
    (emitDevices collect told slots).perform s =
      let devices := (slots.map (pollDevice collect)).filterMap (·.result)
      (s.emitAll devices.flatten, .ok (told + devices.length)) := by
  induction slots generalizing told s with
  | nil => simp [emitDevices, perform_pure, Sink.emitAll]
  | cons slot rest ih =>
    cases device : (collect slot).result with
    | ok r =>
      have here : (pollDevice collect slot).result = some r.observations := by
        simp only [pollDevice, device]
      simp only [emitDevices, device, perform_bind, DeviceRecord.perform_emitAll, ih]
      simp [here, Sink.emitAll, Nat.add_assoc, Nat.add_comm 1]
    | error e =>
      have here : (pollDevice collect slot).result = none := by simp only [pollDevice, device]
      simp only [emitDevices, device, ih]
      simp [here]

theorem perform_emitWith (c : PcieCollector) (tree : FileTree) (s : Sink) :
    (c.emitWith collect tree).perform s = s.update (c.pollWith collect tree).result := by
  rw [emitWith, perform_bind, perform_ofResult, pollWith]
  cases listDevices tree c.root with
  | error e => rfl
  | ok slots => simp [perform_emitDevices, Sink.update]

end PcieCollector

/-- Emits what is observed of a module: its state, its size and its reference count. -/
def KernelModule.emitAll (m : KernelModule) : Emitting Unit := do
  let labels := [("module".toList, m.name)]
  emit ⟨moduleStateMetric, labels, m.state⟩
  emit ⟨moduleSizeMetric, labels, m.size⟩
  emit ⟨moduleRefcountMetric, labels, m.refcount⟩

namespace ModuleCollector

def emitAll (c : ModuleCollector) (tree : FileTree) : Emitting Nat := do
  let modules ← ofResult (c.readModules tree).result
  forM modules KernelModule.emitAll
  pure modules.length

theorem perform_emitAll (c : ModuleCollector) (tree : FileTree) (s : Sink) :
    (c.emitAll tree).perform s = s.update (c.poll tree).result := by
  have each (m : KernelModule) (s : Sink) :
      m.emitAll.perform s = (s.emitAll m.observations, .ok ()) := by
    simp [KernelModule.emitAll, KernelModule.observations, perform_bind, perform_emit, Sink.emit,
      Sink.emitAll]
  rw [emitAll, perform_bind, perform_ofResult, poll]
  cases (c.readModules tree).result with
  | error e => rfl
  | ok modules =>
    simp only [perform_bind, perform_forM each, perform_pure, Except.map, Sink.update]

end ModuleCollector

end PciInventory
