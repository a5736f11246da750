import PciInventory.Proofs.Device.Totality

/-!
# A link attribute is reported or explained

What is said about a device is decided while its files are read, and what is reported of it later,
from what was read. Both come to the same: of each link attribute there is either one observation or
one notice that says why there is none.

A device may be kept from being told about at any point, and then something may have been said about
it before. A notice is known here by what it says, not by its words: the directory that the devices
are in may have a name with which the closing notice reads like one of an attribute.
-/
namespace PciInventory

/-- The slot and the link attribute that a notice says something about. -/
def Notice.link? : Notice → Option (Text × LinkAttribute)
  | .attributeMissing slot a => some (slot, a)
  | .attributeMisread slot a _ => some (slot, a)
  | _ => none

/-- A notice about a link attribute of the device in a slot. -/
def Notice.IsOf (slot : Text) (a : LinkAttribute) (n : Notice) : Prop := n.link? = some (slot, a)

instance (slot : Text) (a : LinkAttribute) (n : Notice) : Decidable (n.IsOf slot a) :=
  inferInstanceAs (Decidable (_ = _))

/-- An observation of any link attribute. -/
def Observation.IsLink (o : Observation) : Prop := ∃ a ∈ LinkAttribute.all, o.name = a.metric

instance (o : Observation) : Decidable o.IsLink := inferInstanceAs (Decidable (∃ _ ∈ _, _))

/-- What there may be of a link attribute with a text: the observation of its number, or a notice
that there is no text, or a notice that the text has no number. -/
inductive LinkAttribute.Accounted (a : LinkAttribute) (slot text : Text) :
    List Observation → List Notice → Prop where
  | reported {x : Binary64} (known : text ≠ unknownText) (read : a.parse text = .ok x) :
      Accounted a slot text [⟨a.metric, [("slot".toList, slot)], x⟩] []
  | missing {n : Notice} (unknown : text = unknownText) (level : n.level = .debug)
      (words : n.message = slot ++ ": ".toList ++ a.fileName ++ " not available".toList) :
      Accounted a slot text [] [n]
  | misread {n : Notice} {e : ParseError} (known : text ≠ unknownText)
      (refused : a.parse text = .error e) (level : n.level = .debug)
      (words : n.message = slot ++ ": failed to parse ".toList ++ a.fileName ++ ": ".toList ++
        e.report.text) : Accounted a slot text [] [n]

namespace LinkAttribute
variable {a : LinkAttribute} {slot text : Text} {os : List Observation} {ns : List Notice}

theorem Accounted.length (h : a.Accounted slot text os ns) : os.length + ns.length = 1 := by
  cases h <;> rfl

/-- A text has a number exactly if there is nothing to say about it. -/
theorem accounted_read (a : LinkAttribute) (slot text : Text) :
    a.Accounted slot text
      ((a.read text).value?.map fun x => ⟨a.metric, [("slot".toList, slot)], x⟩).toList
      ((a.read text).notice? slot a).toList := by
  unfold read
  split
  · exact .missing ‹_› rfl rfl
  · rename_i known
    cases parsed : a.parse text with
    | ok x => exact .reported known parsed
    | error e => exact .misread known parsed rfl rfl

end LinkAttribute

namespace PcieCollector
variable {c : PcieCollector} {tree : FileTree} {slot : Text} {slots : List Text}
  {a : LinkAttribute} {collect : Text → Logged (Except Failure DeviceRecord)}

theorem isOf_of_notice? {n : Notice} {text : Text} (h : (a.read text).notice? slot a = some n) :
    n.IsOf slot a := by
  rcases LinkReading.notice?_eq_some h with rfl | ⟨e, rfl⟩
  · rfl
  · rfl

/-- What is said about a link attribute of a device is what its text gives to say. -/
theorem filter_isOf_recordNotices (slot : Text) (texts : DeviceTexts) (a : LinkAttribute) :
    ((recordNotices slot texts).filter fun n => decide (n.IsOf slot a)) =
      ((a.read (texts.link a)).notice? slot a).toList := by
  have each (b : LinkAttribute) :
      ((b.read (texts.link b)).notice? slot b).filter (fun n => decide (n.IsOf slot a)) =
        if b = a then (b.read (texts.link b)).notice? slot b else none := by
    cases told : (b.read (texts.link b)).notice? slot b with
    | none => simp
    | some n =>
      have own : n.link? = some (slot, b) := isOf_of_notice? told
      simp [Notice.IsOf, own, Option.filter]
  rw [recordNotices, List.filter_filterMap, funext each, LinkAttribute.filterMap_all]

theorem accounted_device (c : PcieCollector) (tree : FileTree) (slot : Text) (a : LinkAttribute) :
    a.Accounted slot (attributeText tree (devicePath c.root slot a.fileName))
      ((c.deviceRecord tree slot).observations.filter fun o => decide (o.IsOf slot a))
      ((recordNotices slot (c.deviceTexts tree slot)).filter fun n => decide (n.IsOf slot a)) := by
  have own : (c.deviceRecord tree slot).slot = slot := rfl
  rw [DeviceRecord.filter_isOf_observations, if_pos own, filter_isOf_recordNotices]
  exact a.accounted_read slot _

theorem countP_device (c : PcieCollector) (tree : FileTree) (slot : Text) :
    (c.deviceRecord tree slot).observations.countP (fun o => decide o.IsLink) +
      (recordNotices slot (c.deviceTexts tree slot)).countP (·.link?.isSome) = 6 := by
  let r := c.deviceRecord tree slot
  let told (a : LinkAttribute) := (a.read ((c.deviceTexts tree slot).link a)).notice? slot a
  have info : ¬ r.info.IsLink := fun ⟨a, _, named⟩ => a.metric_ne_infoMetric named
  have links : ∀ o ∈ LinkAttribute.all.filterMap r.linkObservation?, decide o.IsLink = true := by
    intro o h
    obtain ⟨a, mem, found⟩ := List.mem_filterMap.1 h
    obtain ⟨x, -, rfl⟩ := Option.map_eq_some_iff.1 found
    exact decide_eq_true ⟨a, mem, rfl⟩
  have notices : ∀ n ∈ LinkAttribute.all.filterMap told, n.link?.isSome = true := by
    intro n h
    obtain ⟨a, -, found⟩ := List.mem_filterMap.1 h
    have own : n.link? = some (slot, a) := isOf_of_notice? found
    rw [own]
    rfl
  have one (a : LinkAttribute) :
      (r.linkObservation? a).toList.length + (told a).toList.length = 1 :=
    (a.accounted_read slot _).length
  calc r.observations.countP (fun o => decide o.IsLink) +
        (LinkAttribute.all.filterMap told).countP (·.link?.isSome)
      = (LinkAttribute.all.filterMap r.linkObservation?).length +
        (LinkAttribute.all.filterMap told).length := by
        rw [DeviceRecord.observations, List.countP_cons_of_neg (by simpa using info),
          List.countP_eq_length.2 links, List.countP_eq_length.2 notices]
    _ = (LinkAttribute.all.map fun a =>
          (r.linkObservation? a).toList.length + (told a).toList.length).sum := by
        rw [List.filterMap_eq_flatMap_toList, List.filterMap_eq_flatMap_toList,
          List.length_flatMap, List.length_flatMap, ← List.sum_map_add]
    _ = 6 := by
        simp only [one]
        rfl

/-- Devices are told about from their files, unless something from outside breaks in. What was said
by then about link attributes was about those of that device. -/
def MayBreakOff (c : PcieCollector) (tree : FileTree)
    (collect : Text → Logged (Except Failure DeviceRecord)) : Prop :=
  ∀ slot, collect slot = c.collectDevice tree slot ∨ ((∃ e, (collect slot).result = .error e) ∧
    ∀ n ∈ (collect slot).notices, ∀ s a, n.IsOf s a → s = slot)

theorem mayBreakOff_collectUnless (c : PcieCollector) (tree : FileTree)
    (fault : Text → Option Failure) : c.MayBreakOff tree (c.collectUnless tree fault) := by
  intro slot
  unfold collectUnless
  cases fault slot with
  | none => exact .inl rfl
  | some e => exact .inr ⟨⟨e, rfl⟩, nofun⟩

theorem pollDevice_cases (h : c.MayBreakOff tree collect) (slot : Text) :
    pollDevice collect slot = ⟨recordNotices slot (c.deviceTexts tree slot),
        some (c.deviceRecord tree slot).observations⟩ ∨
      ∃ ns why, pollDevice collect slot = ⟨ns ++ [.deviceSkipped slot why], none⟩ ∧
        ∀ n ∈ ns, ∀ s a, n.IsOf s a → s = slot := by
  rcases h slot with whole | ⟨⟨e, failed⟩, own⟩
  · by_cases passable : Path.isPassable (Path.join c.root slot) = true
    · rw [collectDevice_eq passable] at whole
      exact .inl (by simp only [pollDevice, whole])
    · refine .inr ⟨[], .nulInPath, ?_, by simp⟩
      simp [pollDevice, whole, collectDevice, readDevice, passable, Logged.silent]
  · exact .inr ⟨_, e, by simp only [pollDevice, failed], own⟩

/-- What a poll reports of the device in a slot. -/
def block (collect : Text → Logged (Except Failure DeviceRecord)) (slot : Text) :
    List Observation :=
  (pollDevice collect slot).result.getD []

/-- A poll says and reports slot by slot what is said and reported of the devices. -/
theorem pollWith_eq (listed : listDevices tree c.root = .ok slots) :
    c.pollWith collect tree =
      let count := slots.countP fun slot => (pollDevice collect slot).result.isSome
      ⟨slots.flatMap (fun slot => (pollDevice collect slot).notices) ++
          [.devicesCollected count c.root], .ok ⟨count, slots.flatMap (block collect)⟩⟩ := by
  have told : ((slots.map (pollDevice collect)).filterMap (·.result)).length =
      slots.countP fun slot => (pollDevice collect slot).result.isSome := by
    rw [List.filterMap_map, List.length_filterMap_eq_countP]
    rfl
  have blocks : ((slots.map (pollDevice collect)).filterMap (·.result)).flatten =
      slots.flatMap (block collect) := by
    clear listed told
    induction slots with
    | nil => rfl
    | cons slot rest ih =>
      rw [List.map_cons, List.flatMap_cons, ← ih, block]
      cases told : (pollDevice collect slot).result with
      | none => rw [List.filterMap_cons_none told]; rfl
      | some os => rw [List.filterMap_cons_some told]; rfl
  simp only [pollWith, listed, told, blocks, List.flatMap_map]

/-- What a poll reports of a slot is of the device in it. -/
theorem slot?_of_mem_block (h : c.MayBreakOff tree collect) {o : Observation}
    (mem : o ∈ block collect slot) :
    o.slot? = some slot ∧ (pollDevice collect slot).result.isSome = true := by
  rcases pollDevice_cases h slot with whole | ⟨ns, why, broken, -⟩
  · rw [block, whole] at mem
    exact ⟨DeviceRecord.slot?_of_mem_observations mem, by rw [whole]; rfl⟩
  · rw [block, broken] at mem
    cases mem

/-- Nothing that a poll reports or says of a slot is of a link attribute in another. -/
theorem filter_isOf_other (h : c.MayBreakOff tree collect) {s : Text} (other : s ≠ slot)
    (a : LinkAttribute) :
    ((block collect s).filter fun o => decide (o.IsOf slot a)) = [] ∧
      ((pollDevice collect s).notices.filter fun n => decide (n.IsOf slot a)) = [] := by
  constructor
  · rw [List.filter_eq_nil_iff]
    intro o mem own
    have here := (slot?_of_mem_block h mem).1
    have there := (of_decide_eq_true own).2
    exact other (Option.some.inj (here.symm.trans there))
  · rw [List.filter_eq_nil_iff]
    intro n mem own
    have own : n.IsOf slot a := of_decide_eq_true own
    rcases pollDevice_cases h s with whole | ⟨ns, why, broken, about⟩
    · rw [whole] at mem
      obtain ⟨b, -, told⟩ := List.mem_filterMap.1 mem
      have here : n.IsOf s b := isOf_of_notice? told
      cases here.symm.trans own
      exact other rfl
    · rw [broken] at mem
      rcases List.mem_append.1 mem with before | last
      · exact other (about n before slot a own).symm
      · cases List.mem_singleton.1 last
        cases own

theorem accounted_slots (h : c.MayBreakOff tree collect) (distinct : slots.Nodup)
    (mem : slot ∈ slots) (told : (pollDevice collect slot).result.isSome = true)
    (a : LinkAttribute) :
    a.Accounted slot (attributeText tree (devicePath c.root slot a.fileName))
      ((slots.flatMap (block collect)).filter fun o => decide (o.IsOf slot a))
      ((slots.flatMap fun slot => (pollDevice collect slot).notices).filter
        fun n => decide (n.IsOf slot a)) := by
  rw [filter_flatMap_of_nodup distinct mem fun s _ other => (filter_isOf_other h other a).1,
    filter_flatMap_of_nodup distinct mem fun s _ other => (filter_isOf_other h other a).2]
  rcases pollDevice_cases h slot with whole | ⟨ns, why, broken, -⟩
  · rw [block, whole]
    exact c.accounted_device tree slot a
  · rw [broken] at told
    cases told

/-- If no device is skipped there are six observations and notices of link attributes for each. -/
theorem countP_slots (h : c.MayBreakOff tree collect)
    (whole : ∀ slot ∈ slots, ∀ why,
      Notice.deviceSkipped slot why ∉ (pollDevice collect slot).notices) :
    (slots.flatMap (block collect)).countP (fun o => decide o.IsLink) +
        (slots.flatMap fun slot => (pollDevice collect slot).notices).countP (·.link?.isSome) =
      6 * slots.countP fun slot => (pollDevice collect slot).result.isSome := by
  induction slots with
  | nil => rfl
  | cons slot rest ih =>
    obtain ⟨here, whole⟩ := List.forall_mem_cons.1 whole
    have later := ih whole
    rcases pollDevice_cases h slot with told | ⟨ns, why, broken, -⟩
    · have six := c.countP_device tree slot
      rw [List.flatMap_cons, List.flatMap_cons, List.countP_append, List.countP_append,
        List.countP_cons_of_pos (by rw [told]; rfl), block, told]
      simp only [Option.getD_some]
      omega
    · exact absurd (by simp [broken]) (here why)

/-- Of a device that is told about each link attribute is either reported or explained, and nothing
of another device bears on that. If no device is skipped there are six such observations and notices
for each device. -/
theorem update_pollWith_explains {c : PcieCollector} {tree : FileTree}
    {collect : Text → Logged (Except Failure DeviceRecord)} (h : c.MayBreakOff tree collect)
    {sink sink' : Sink} {count : Nat}
    (polled : sink.update (c.pollWith collect tree).result = (sink', .ok count)) :
    let ns := (c.pollWith collect tree).notices
    ∃ os, sink' = sink.emitAll os ∧
      (∀ slot, (∃ o ∈ os, o.slot? = some slot) → ∀ a : LinkAttribute,
        a.Accounted slot (attributeText tree (devicePath c.root slot a.fileName))
          (os.filter fun o => decide (o.IsOf slot a))
          (ns.filter fun n => decide (n.IsOf slot a))) ∧
      ((∀ slot why, Notice.deviceSkipped slot why ∉ ns) →
        os.countP (fun o => decide o.IsLink) + ns.countP (·.link?.isSome) = 6 * count) := by
  intro ns
  cases listed : listDevices tree c.root with
  | error e =>
    have failed : (c.pollWith collect tree).result = .error e := by
      simp only [pollWith, listed, Logged.silent]
    rw [failed] at polled
    cases polled
  | ok slots =>
    have distinct : slots.Nodup :=
      (FileTree.listDirectory_eq_ok (listDirectory_of_listDevices listed)).1.imp Text.Before.ne
    have said : ns = slots.flatMap (fun slot => (pollDevice collect slot).notices) ++ _ :=
      congrArg Logged.notices (pollWith_eq listed)
    rw [pollWith_eq listed] at polled
    cases polled
    rw [said]
    refine ⟨_, rfl, ?_, ?_⟩
    · rintro slot ⟨o, mem, own⟩ a
      obtain ⟨s, listed, mem⟩ := List.mem_flatMap.1 mem
      obtain ⟨same, told⟩ := slot?_of_mem_block h mem
      cases same.symm.trans own
      rw [List.filter_append, List.filter_singleton]
      simpa [Notice.IsOf, Notice.link?] using accounted_slots h distinct listed told a
    · intro unskipped
      rw [List.countP_append]
      refine countP_slots h fun slot mem why skipped => unskipped slot why ?_
      exact List.mem_append_left _ (List.mem_flatMap.2 ⟨slot, mem, skipped⟩)

/-- A device whose width is zero and whose power state is no power state, beside one of which there
is nothing. -/
def sparseTree : FileTree :=
  (((FileTree.empty []).put [['d'], ['0'], "current_link_width".toList] (.file [0x30])).put
    [['d'], ['0'], "power_state".toList] (.file [0x44, 0x39])).put [['d'], ['1']] .directory

/-- The width of zero lanes that the sparse tree has for its first device. -/
def sparseWidth : Observation :=
  ⟨"pciscope_pcie_slot_current_width_lanes".toList, [("slot".toList, ['0'])], .ofInt 0⟩

/-- The sparse tree is polled, and polled again with something breaking in at the second device when
one thing has been said about it. Both times the width of the first one is reported. -/
theorem update_pollWith_explains_sparse :
    let c : PcieCollector := ⟨.empty, "/d/".toList⟩
    let collect := c.collectDevice sparseTree
    let broken : Text → Logged (Except Failure DeviceRecord) := fun slot =>
      if slot = ['1'] then ⟨[.attributeMissing ['1'] .currentSpeed], .error .nulInPath⟩
      else collect slot
    (∃ os, Sink.empty.update (c.pollWith collect sparseTree).result =
        (Sink.empty.emitAll os, .ok 2) ∧ sparseWidth ∈ os ∧
      os.countP (fun o => decide o.IsLink) +
        (c.pollWith collect sparseTree).notices.countP (·.link?.isSome) = 6 * 2) ∧
    ∃ os, Sink.empty.update (c.pollWith broken sparseTree).result =
        (Sink.empty.emitAll os, .ok 1) ∧ sparseWidth ∈ os ∧
      ∀ a, LinkAttribute.Accounted a ['0']
        (attributeText sparseTree (devicePath c.root ['0'] a.fileName))
        (os.filter fun o => decide (o.IsOf ['0'] a))
        ((c.pollWith broken sparseTree).notices.filter fun n => decide (n.IsOf ['0'] a)) := by
  intro c collect broken
  have listed : listDevices sparseTree c.root = .ok [['0'], ['1']] := by cbv
  have whole : c.MayBreakOff sparseTree collect := fun slot => .inl rfl
  have cut : c.MayBreakOff sparseTree broken := by
    intro slot
    by_cases second : slot = ['1']
    · refine .inr ⟨⟨.nulInPath, by simp [broken, second]⟩, fun n mem s a own => ?_⟩
      simp only [broken, if_pos second, List.mem_singleton] at mem
      subst mem
      cases own
      exact second.symm
    · exact .inl (if_neg second)
  have first : (pollDevice broken ['0']).result =
      some (c.deviceRecord sparseTree ['0']).observations := by rfl
  have width : sparseWidth ∈ (c.deviceRecord sparseTree ['0']).observations := by decide +kernel
  have polled : Sink.empty.update (c.pollWith collect sparseTree).result =
      (Sink.empty.emitAll ([['0'], ['1']].flatMap (block collect)), .ok 2) := by
    rw [pollWith_eq listed]
    rfl
  have polled' : Sink.empty.update (c.pollWith broken sparseTree).result =
      (Sink.empty.emitAll ([['0'], ['1']].flatMap (block broken)), .ok 1) := by
    rw [pollWith_eq listed]
    rfl
  have quiet : ∀ n ∈ (c.pollWith collect sparseTree).notices, n.level = .debug := by
    rw [pollWith_eq listed]
    decide +kernel
  constructor
  · obtain ⟨os, emitted, -, six⟩ := update_pollWith_explains whole polled
    have reported : [['0'], ['1']].flatMap (block collect) = os := congrArg Sink.observations emitted
    refine ⟨os, emitted ▸ polled, ?_, six fun slot why skipped => ?_⟩
    · rw [← reported]
      exact List.mem_append_left _ width
    · cases quiet _ skipped
  · obtain ⟨os, emitted, each, -⟩ := update_pollWith_explains cut polled'
    have reported : [['0'], ['1']].flatMap (block broken) = os :=
      congrArg Sink.observations emitted
    have told : ∀ o ∈ (c.deviceRecord sparseTree ['0']).observations, o ∈ os := by
      intro o ho
      rw [← reported, List.flatMap_cons, block, first]
      exact List.mem_append_left _ ho
    exact ⟨os, emitted ▸ polled', told _ width, each ['0']
      ⟨_, told _ List.mem_cons_self, DeviceRecord.slot?_info _⟩⟩

end PcieCollector

end PciInventory
