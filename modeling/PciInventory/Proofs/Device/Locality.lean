import Mathlib.Data.List.Permutation
import PciInventory.Proofs.Device.Poll
import PciInventory.Proofs.FileTree.Writing

/-!
# Failures stay where they are

Two polls of the same slots report the same wherever the trees are alike: what one link attribute's
file comes to shows in the one observation of its metric for its slot, and what lies below one slot
shows in the observations of that slot. Where there is no such observation none takes its place, and
the number of devices does not change.

Nothing is claimed of the notices, which tell of the difference, nor of trees whose roots list
different slots.
-/
namespace PciInventory

/-- The slot that an observation is of. -/
def Observation.slot? (o : Observation) : Option Text := o.labels.lookup "slot".toList

/-- An observation of a link attribute's metric for a slot. -/
def Observation.IsOf (slot : Text) (a : LinkAttribute) (o : Observation) : Prop :=
  o.name = a.metric ∧ o.slot? = some slot

instance (slot : Text) (a : LinkAttribute) (o : Observation) : Decidable (o.IsOf slot a) :=
  inferInstanceAs (Decidable (_ ∧ _))

namespace LinkAttribute
variable {a b : LinkAttribute}

theorem isFileName (a : LinkAttribute) : Path.IsFileName a.fileName := by cases a <;> decide

theorem fileName_inj : a.fileName = b.fileName ↔ a = b := by
  constructor
  · cases a <;> cases b <;> decide
  · rintro rfl
    rfl

theorem metric_inj : a.metric = b.metric ↔ a = b := by
  constructor
  · cases a <;> cases b <;> decide
  · rintro rfl
    rfl

theorem metric_ne_infoMetric (a : LinkAttribute) : infoMetric ≠ a.metric := by
  cases a <;> decide

theorem filterMap_all {A : Type} (f : LinkAttribute → Option A) (a : LinkAttribute) :
    (all.filterMap fun b => if b = a then f b else none) = (f a).toList := by
  cases a <;> cases h : f _ <;> simp [all, h]

end LinkAttribute

theorem IdentityAttribute.isFileName (a : IdentityAttribute) : Path.IsFileName a.fileName := by
  cases a <;> decide

theorem IdentityAttribute.fileName_ne (a : IdentityAttribute) (b : LinkAttribute) :
    a.fileName ≠ b.fileName := by
  cases a <;> cases b <;> decide

namespace DeviceRecord
variable {r r' : DeviceRecord} {a : LinkAttribute} {slot : Text}

theorem slot?_info (r : DeviceRecord) : r.info.slot? = some r.slot := by
  simp [info, infoLabels, Observation.slot?]

theorem slot?_of_linkObservation? {o : Observation} (h : r.linkObservation? a = some o) :
    o.slot? = some r.slot := by
  obtain ⟨x, -, rfl⟩ := Option.map_eq_some_iff.1 h
  simp [Observation.slot?]

theorem slot?_of_mem_observations {o : Observation} (h : o ∈ r.observations) :
    o.slot? = some r.slot := by
  rcases List.mem_cons.1 h with rfl | h
  · exact slot?_info r
  · obtain ⟨a, -, found⟩ := List.mem_filterMap.1 h
    exact slot?_of_linkObservation? found

theorem not_isOf_info (r : DeviceRecord) (slot : Text) (a : LinkAttribute) :
    ¬ r.info.IsOf slot a :=
  fun h => a.metric_ne_infoMetric h.1

theorem isOf_iff_of_linkObservation? {o : Observation} {b : LinkAttribute}
    (h : r.linkObservation? b = some o) : o.IsOf slot a ↔ b = a ∧ r.slot = slot := by
  have named : o.name = b.metric := by
    obtain ⟨x, -, rfl⟩ := Option.map_eq_some_iff.1 h
    rfl
  rw [Observation.IsOf, named, slot?_of_linkObservation? h, LinkAttribute.metric_inj,
    Option.some.injEq]

/-- A device has the observation of a link attribute once, if the attribute has a number. -/
theorem filter_isOf_observations (r : DeviceRecord) (slot : Text) (a : LinkAttribute) :
    (r.observations.filter fun o => decide (o.IsOf slot a)) =
      if r.slot = slot then (r.linkObservation? a).toList else [] := by
  have each (b : LinkAttribute) :
      (r.linkObservation? b).filter (fun o => decide (o.IsOf slot a)) =
        if b = a then (if r.slot = slot then r.linkObservation? b else none) else none := by
    cases h : r.linkObservation? b with
    | none => simp
    | some o =>
      by_cases hb : b = a
      · by_cases hs : r.slot = slot
        · simp [isOf_iff_of_linkObservation? h, Option.filter, hb, hs]
        · simp [isOf_iff_of_linkObservation? h, Option.filter, hb, hs]
      · simp [isOf_iff_of_linkObservation? h, Option.filter, hb]
  rw [observations, List.filter_cons_of_neg (by simpa using not_isOf_info r slot a),
    List.filter_filterMap, funext each, LinkAttribute.filterMap_all]
  split <;> rfl

/-- Records that differ in one link attribute have the same observations but for the one of it. -/
theorem filter_observations_congr (info : r.info = r'.info) (slot : r.slot = r'.slot)
    (link : ∀ b, b ≠ a → r.link b = r'.link b) :
    (r.observations.filter fun o => !decide (o.IsOf r.slot a)) =
      r'.observations.filter fun o => !decide (o.IsOf r.slot a) := by
  have each (b : LinkAttribute) :
      (r.linkObservation? b).filter (fun o => !decide (o.IsOf r.slot a)) =
        (r'.linkObservation? b).filter fun o => !decide (o.IsOf r.slot a) := by
    by_cases hb : b = a
    · have dropped {s : DeviceRecord} (hs : s.slot = r.slot) :
          (s.linkObservation? b).filter (fun o => !decide (o.IsOf r.slot a)) = none := by
        cases h : s.linkObservation? b with
        | none => rfl
        | some o => simp [isOf_iff_of_linkObservation? h, Option.filter, hb, hs]
      rw [dropped rfl, dropped slot.symm]
    · simp only [linkObservation?, link b hb, slot]
  rw [observations, observations, ← info, List.filter_cons, List.filter_cons, List.filter_filterMap,
    List.filter_filterMap, funext each]

end DeviceRecord

/-- Of some different things one gives all that is kept, if nothing is kept of the others. -/
theorem filter_flatMap_of_nodup {A B : Type} {xs : List A} (distinct : xs.Nodup)
    {f : A → List B} {keep : B → Bool} {x : A} (mem : x ∈ xs)
    (others : ∀ y ∈ xs, y ≠ x → (f y).filter keep = []) :
    (xs.flatMap f).filter keep = (f x).filter keep := by
  induction xs with
  | nil => cases mem
  | cons y rest ih =>
    obtain ⟨fresh, distinct⟩ := List.nodup_cons.1 distinct
    obtain ⟨here, later⟩ := List.forall_mem_cons.1 others
    rw [List.flatMap_cons, List.filter_append]
    by_cases same : y = x
    · subst same
      have none : (rest.flatMap f).filter keep = [] := by
        rw [List.filter_flatMap, List.flatMap_eq_nil_iff]
        exact fun z hz => later z hz (ne_of_mem_of_not_mem hz fresh)
      rw [none, List.append_nil]
    · rw [here same, List.nil_append]
      exact ih distinct ((List.mem_cons.1 mem).resolve_left (Ne.symm same)) later

namespace PcieCollector
variable {c : PcieCollector} {tree tree' : FileTree} {here place : Location} {slot : Text}
variable {slots : List Text}

/-- The texts of the files of the device in a slot. -/
def deviceTexts (c : PcieCollector) (tree : FileTree) (slot : Text) : DeviceTexts :=
  ⟨fun a => attributeText tree (devicePath c.root slot a.fileName),
    fun a => attributeText tree (devicePath c.root slot a.fileName)⟩

def deviceRecord (c : PcieCollector) (tree : FileTree) (slot : Text) : DeviceRecord :=
  c.record slot (c.deviceTexts tree slot)

theorem result_pollDevice (c : PcieCollector) (tree : FileTree) (slot : Text) :
    (pollDevice (c.collectDevice tree) slot).result =
      if Path.isPassable (Path.join c.root slot) then some (c.deviceRecord tree slot).observations
      else none := by
  cases h : Path.isPassable (Path.join c.root slot)
  · simp [pollDevice, collectDevice, readDevice, h, Logged.silent]
  · simp [pollDevice, collectDevice, readDevice, h, deviceRecord, deviceTexts]

/-- A poll reports, slot by slot, the observations of the devices whose directory has a path. -/
theorem result_poll (listed : listDevices tree c.root = .ok slots) :
    let told := slots.filter fun slot => Path.isPassable (Path.join c.root slot)
    (c.poll tree).result =
      .ok ⟨told.length, told.flatMap fun slot => (c.deviceRecord tree slot).observations⟩ := by
  intro told
  have blocks : (slots.map (pollDevice (c.collectDevice tree))).filterMap (·.result) =
      told.map fun slot => (c.deviceRecord tree slot).observations := by
    rw [List.filterMap_map, ← List.filterMap_eq_map, List.filterMap_filter]
    exact List.filterMap_congr fun slot _ => result_pollDevice c tree slot
  simp only [poll, pollWith, listed, blocks, List.length_map, List.flatMap_def]

theorem attributeText_congr {s file : Text} (alike : tree.AlikeOutside tree' place)
    (located : tree.locate c.root = .ok here) (located' : tree'.locate c.root = .ok here)
    (hs : Path.IsFileName s) (hf : Path.IsFileName file) (apart : ¬ place <+: here ++ [s, file]) :
    attributeText tree (devicePath c.root s file) =
      attributeText tree' (devicePath c.root s file) := by
  have above {more : Location} (way : more <+: [s, file]) :
      tree.entry? (here ++ more) = tree'.entry? (here ++ more) := by
    apply alike.entry
    intro inside
    exact apart (inside.trans ((List.prefix_append_right_inj here).2 way))
  have same := FileTree.contentAt_join_join_congr located located' hs hf
    (by simpa using above List.nil_prefix) (above ⟨[file], rfl⟩) (above List.prefix_rfl)
  rw [attributeText, attributeText, devicePath, same]

theorem deviceRecord_congr {s : Text} (alike : tree.AlikeOutside tree' place)
    (located : tree.locate c.root = .ok here) (located' : tree'.locate c.root = .ok here)
    (hs : Path.IsFileName s) (apart : ∀ file, ¬ place <+: here ++ [s, file]) :
    c.deviceRecord tree s = c.deviceRecord tree' s := by
  have same : c.deviceTexts tree s = c.deviceTexts tree' s := by
    unfold deviceTexts
    congr 1
    · funext a
      exact attributeText_congr alike located located' hs a.isFileName (apart _)
    · funext a
      exact attributeText_congr alike located located' hs a.isFileName (apart _)
  rw [deviceRecord, deviceRecord, same]

/-- What one link attribute's file comes to shows in the one observation of it. -/
theorem filter_observations_deviceRecord {s : Text} {a : LinkAttribute}
    (alike : tree.AlikeOutside tree' (here ++ [slot, a.fileName]))
    (located : tree.locate c.root = .ok here) (located' : tree'.locate c.root = .ok here)
    (hs : Path.IsFileName s) :
    ((c.deviceRecord tree s).observations.filter fun o => !decide (o.IsOf slot a)) =
      (c.deviceRecord tree' s).observations.filter fun o => !decide (o.IsOf slot a) := by
  have apart {file : Text} (h : ¬ (slot = s ∧ a.fileName = file)) :
      ¬ here ++ [slot, a.fileName] <+: here ++ [s, file] := by
    simpa [List.prefix_append_right_inj, List.cons_prefix_cons] using h
  by_cases same : s = slot
  · subst same
    have identity : (c.deviceTexts tree s).identity = (c.deviceTexts tree' s).identity := by
      funext b
      exact attributeText_congr alike located located' hs b.isFileName
        (apart fun h => b.fileName_ne a h.2.symm)
    have link : ∀ b, b ≠ a → (c.deviceTexts tree s).link b = (c.deviceTexts tree' s).link b := by
      intro b hb
      exact attributeText_congr alike located located' hs b.isFileName
        (apart fun h => hb (LinkAttribute.fileName_inj.1 h.2).symm)
    refine DeviceRecord.filter_observations_congr ?_ rfl ?_
    · simp only [deviceRecord, record, DeviceRecord.info, DeviceRecord.infoLabels, identity]
    · intro b hb
      simp only [deviceRecord, record, link b hb]
  · rw [deviceRecord_congr alike located located' hs fun file => apart fun h => same h.1.symm]

/-- What is at and below one slot shows in the observations of that slot. -/
theorem filter_slot_deviceRecord {s : Text} (alike : tree.AlikeOutside tree' (here ++ [slot]))
    (located : tree.locate c.root = .ok here) (located' : tree'.locate c.root = .ok here)
    (hs : Path.IsFileName s) :
    ((c.deviceRecord tree s).observations.filter fun o => decide (o.slot? ≠ some slot)) =
      (c.deviceRecord tree' s).observations.filter fun o => decide (o.slot? ≠ some slot) := by
  by_cases same : s = slot
  · have dropped (t : FileTree) : ((c.deviceRecord t s).observations.filter fun o =>
        decide (o.slot? ≠ some slot)) = [] := by
      rw [List.filter_eq_nil_iff]
      intro o ho
      have own : o.slot? = some s := DeviceRecord.slot?_of_mem_observations ho
      simp [own, same]
    rw [dropped, dropped]
  · have apart (file : Text) : ¬ here ++ [slot] <+: here ++ [s, file] := by
      simpa [List.prefix_append_right_inj, List.cons_prefix_cons] using Ne.symm same
    rw [deviceRecord_congr alike located located' hs apart]

/-- Among slots that are all different a link attribute's observation for one of them comes at most
once. -/
theorem length_filter_isOf_le (distinct : slots.Nodup) (slot : Text) (a : LinkAttribute) :
    ((slots.flatMap fun s => (c.deviceRecord tree s).observations).filter fun o =>
      decide (o.IsOf slot a)).length ≤ 1 := by
  have one (s : Text) : ((c.deviceRecord tree s).observations.filter fun o =>
      decide (o.IsOf slot a)) =
        if s = slot then ((c.deviceRecord tree s).linkObservation? a).toList else [] :=
    DeviceRecord.filter_isOf_observations _ slot a
  by_cases mem : slot ∈ slots
  · rw [filter_flatMap_of_nodup distinct mem fun s _ other => by rw [one, if_neg other], one,
      if_pos rfl]
    cases (c.deviceRecord tree slot).linkObservation? a <;> simp
  · have none : (slots.flatMap fun s => (c.deviceRecord tree s).observations.filter fun o =>
        decide (o.IsOf slot a)) = [] := by
      rw [List.flatMap_eq_nil_iff]
      intro s hs
      rw [one, if_neg (ne_of_mem_of_not_mem hs mem)]
    rw [List.filter_flatMap, none]
    exact Nat.zero_le 1

/-- Polls of the same slots tell of the same number of devices. Where the trees differ at most in
one link attribute's file they report alike, but for the one observation that either may have of
that attribute's metric for that slot; where the trees differ at most at and below one slot they
report alike for all other slots. -/
theorem update_poll_local {c : PcieCollector} {tree tree' : FileTree} {here : Location}
    {slots : List Text} (listed : listDevices tree c.root = .ok slots)
    (listed' : listDevices tree' c.root = .ok slots) (located : tree.locate c.root = .ok here)
    (named : ∀ s ∈ slots, Path.IsFileName s) (sink : Sink) (slot : Text) :
    (∀ a : LinkAttribute, tree.AlikeOutside tree' (here ++ [slot, a.fileName]) →
      ∃ count os os',
        sink.update (c.poll tree).result = (sink.emitAll os, .ok count) ∧
        sink.update (c.poll tree').result = (sink.emitAll os', .ok count) ∧
        (os.filter fun o => !decide (o.IsOf slot a)) =
          (os'.filter fun o => !decide (o.IsOf slot a)) ∧
        (os.filter fun o => decide (o.IsOf slot a)).length ≤ 1 ∧
        (os'.filter fun o => decide (o.IsOf slot a)).length ≤ 1) ∧
    (tree.AlikeOutside tree' (here ++ [slot]) →
      ∃ count os os',
        sink.update (c.poll tree).result = (sink.emitAll os, .ok count) ∧
        sink.update (c.poll tree').result = (sink.emitAll os', .ok count) ∧
        (os.filter fun o => decide (o.slot? ≠ some slot)) =
          os'.filter fun o => decide (o.slot? ≠ some slot)) := by
  have distinct : slots.Nodup :=
    (FileTree.listDirectory_eq_ok (listDirectory_of_listDevices listed)).1.imp Text.Before.ne
  have same_place (working : tree.workingDirectory = tree'.workingDirectory) :
      tree'.locate c.root = .ok here := by
    obtain ⟨-, here', located', -⟩ :=
      FileTree.listDirectory_eq_ok (listDirectory_of_listDevices listed')
    rw [FileTree.locate_unique working located located', located']
  constructor
  · intro a alike
    have located' := same_place alike.workingDirectory
    refine ⟨_, _, _, by rw [result_poll listed]; rfl, by rw [result_poll listed']; rfl, ?_,
      length_filter_isOf_le (distinct.filter _) slot a,
      length_filter_isOf_le (distinct.filter _) slot a⟩
    rw [List.filter_flatMap, List.filter_flatMap]
    refine List.flatMap_congr fun s hs => ?_
    exact filter_observations_deviceRecord alike located located'
      (named s (List.mem_of_mem_filter hs))
  · intro alike
    have located' := same_place alike.workingDirectory
    refine ⟨_, _, _, by rw [result_poll listed]; rfl, by rw [result_poll listed']; rfl, ?_⟩
    rw [List.filter_flatMap, List.filter_flatMap]
    refine List.flatMap_congr fun s hs => ?_
    exact filter_slot_deviceRecord alike located located' (named s (List.mem_of_mem_filter hs))

/-- Two devices, of which the first has a power state. -/
def sampleTree : FileTree :=
  (((FileTree.empty []).put [['d'], ['0'], "power_state".toList] (.file [0x44, 0x30])).put
    [['d'], ['1'], "vendor".toList] (.file [0x30, 0x78, 0x31]))

/-- The sample with a directory where the power state was. -/
def sampleTree' : FileTree :=
  sampleTree.put ([['d']] ++ [['0'], "power_state".toList]) .directory

/-- With a directory in the place of the power state both devices are still told of, and all but the
power state. -/
theorem update_poll_local_sample :
    let c : PcieCollector := ⟨.empty, "/d/".toList⟩
    ∃ count os os',
      Sink.empty.update (c.poll sampleTree).result = (Sink.empty.emitAll os, .ok count) ∧
      Sink.empty.update (c.poll sampleTree').result = (Sink.empty.emitAll os', .ok count) ∧
      (os.filter fun o => !decide (o.IsOf ['0'] .powerState)) =
        (os'.filter fun o => !decide (o.IsOf ['0'] .powerState)) ∧
      (os.filter fun o => decide (o.IsOf ['0'] .powerState)).length ≤ 1 ∧
      (os'.filter fun o => decide (o.IsOf ['0'] .powerState)).length ≤ 1 := by
  intro c
  have listed : listDevices sampleTree c.root = .ok [['0'], ['1']] := by cbv
  have listed' : listDevices sampleTree' c.root = .ok [['0'], ['1']] := by cbv
  have located : sampleTree.locate c.root = .ok [['d']] := by decide +kernel
  have directory : sampleTree.entry? [['d'], ['0']] = some .directory := by decide +kernel
  exact (update_poll_local listed listed' located (by decide +kernel) .empty ['0']).1 .powerState
    (FileTree.alikeOutside_put directory _ .directory)

end PcieCollector

end PciInventory
