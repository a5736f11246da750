import PciInventory.Proofs.Device.LinkLanguage
import PciInventory.Proofs.Device.Locality
import PciInventory.Proofs.Number.Conversion

/-!
# No device is skipped

Whatever the entries of a root are and whatever their files hold, each of them can be told about: a
file in the place of a device, a directory in the place of an attribute, bytes that are no text and
texts that are no numbers are all read as something. So a poll of a root that can be listed tells of
as many devices as there are entries, and has no warning to give.

The only names that would keep an entry from being told about have a NUL in them, and no entry of a
directory has such a name.
-/
namespace PciInventory

theorem LinkAttribute.parse_total (a : LinkAttribute) (t : Text) :
    (∃ x, a.parse t = .ok x) ∨ ∃ e, a.parse t = .error e ∧ e.value = t := by
  have refused : ∀ e, a.parse t = .error e → e.value = t := by
    intro e h
    cases a with
    | currentSpeed => exact readsLiterals_parseSpeed.refuses t e h
    | currentWidth => exact readsLiterals_parseWidth.refuses t e h
    | maxSpeed => exact readsLiterals_parseSpeed.refuses t e h
    | maxWidth => exact readsLiterals_parseWidth.refuses t e h
    | powerState => exact readsTrimmed_parsePowerState.refuses t e h
    | d3coldAllowed => exact readsTrimmed_parseFlag.refuses t e h
  cases h : a.parse t with
  | ok x => exact .inl ⟨x, rfl⟩
  | error e => exact .inr ⟨e, rfl, refused e h⟩

/-- What there is to say of a reading is that the text is missing or was misread. -/
theorem LinkReading.notice?_eq_some {reading : LinkReading} {slot : Text} {a : LinkAttribute}
    {n : Notice} (h : reading.notice? slot a = some n) :
    n = .attributeMissing slot a ∨ ∃ e, n = .attributeMisread slot a e := by
  cases reading with
  | missing =>
    cases h
    exact .inl rfl
  | value x => cases h
  | misread e =>
    cases h
    exact .inr ⟨e, rfl⟩

namespace PcieCollector
variable {c : PcieCollector} {tree : FileTree} {slot : Text} {slots : List Text}

theorem isPassable_of_listDevices {root : Text} (listed : listDevices tree root = .ok slots) :
    Path.isPassable root = true := by
  unfold listDevices at listed
  split at listed
  · rename_i passable
    exact passable
  · cases listed

theorem collectDevice_eq (passable : Path.isPassable (Path.join c.root slot) = true) :
    c.collectDevice tree slot =
      ⟨recordNotices slot (c.deviceTexts tree slot), .ok (c.deviceRecord tree slot)⟩ := by
  simp only [collectDevice, readDevice, if_pos passable]
  rfl

/-- What there is to say about a device is said for the curious. -/
theorem level_of_mem_recordNotices {texts : DeviceTexts} {n : Notice}
    (h : n ∈ recordNotices slot texts) : n.level = .debug := by
  obtain ⟨a, -, told⟩ := List.mem_filterMap.1 h
  rcases LinkReading.notice?_eq_some told with rfl | ⟨e, rfl⟩
  · rfl
  · rfl

/-- A poll in which every slot can be told about says of each link attribute without a number that
it has none, and at the end how many devices there were. -/
theorem notices_poll (listed : listDevices tree c.root = .ok slots)
    (passable : ∀ slot ∈ slots, Path.isPassable (Path.join c.root slot) = true) :
    (c.poll tree).notices =
      (slots.flatMap fun slot => recordNotices slot (c.deviceTexts tree slot)) ++
        [.devicesCollected slots.length c.root] := by
  have each : slots.map (pollDevice (c.collectDevice tree)) = slots.map fun slot =>
      ⟨recordNotices slot (c.deviceTexts tree slot),
        some (c.deviceRecord tree slot).observations⟩ := by
    refine List.map_congr_left fun slot hs => ?_
    simp only [pollDevice, collectDevice_eq (passable slot hs)]
  simp only [poll, pollWith, listed, each]
  simp [List.flatMap_map, List.filterMap_map]

/-- A poll of a root that can be listed tells of each of its entries, whatever the entries are: none
is skipped, and there is no warning. A link attribute's text is read as a number or refused as it
is, and whatever is matched as a decimal literal converts to the number that the literal has. -/
theorem update_poll_total {c : PcieCollector} {tree : FileTree} {slots : List Text}
    (listed : listDevices tree c.root = .ok slots)
    (named : ∀ slot ∈ slots, Path.isPassable slot = true) (sink : Sink) :
    (∀ slot ∈ slots, ∃ r, (c.collectDevice tree slot).result = .ok r) ∧
    (sink.update (c.poll tree).result).2 = .ok slots.length ∧
    (∀ slot why, Notice.deviceSkipped slot why ∉ (c.poll tree).notices) ∧
    (∀ n ∈ (c.poll tree).notices, n.level = .debug) ∧
    (∀ (a : LinkAttribute) (t : Text),
      (∃ x, a.parse t = .ok x) ∨ ∃ e, a.parse t = .error e ∧ e.value = t) ∧
    ∀ t l, Literal.Matches t l → Converts t l.toBinary64 := by
  have passable : ∀ slot ∈ slots, Path.isPassable (Path.join c.root slot) = true :=
    fun slot hs => Path.isPassable_join (isPassable_of_listDevices listed) (named slot hs)
  have quiet : ∀ n ∈ (c.poll tree).notices, n.level = .debug := by
    intro n hn
    rw [notices_poll listed passable] at hn
    rcases List.mem_append.1 hn with device | final
    · obtain ⟨slot, -, told⟩ := List.mem_flatMap.1 device
      exact level_of_mem_recordNotices told
    · rw [List.mem_singleton.1 final]
      rfl
  refine ⟨fun slot hs => ⟨_, congrArg Logged.result (collectDevice_eq (passable slot hs))⟩, ?_, ?_,
    quiet, LinkAttribute.parse_total, fun _ _ => Literal.Matches.converts⟩
  · have all : slots.filter (fun slot => Path.isPassable (Path.join c.root slot)) = slots :=
      List.filter_eq_self.2 passable
    rw [result_poll listed, Sink.update, all]
  · intro slot why skipped
    cases quiet _ skipped

/-- A device whose vendor is a directory, whose speed has digits of another script and whose power
state is no text, beside a file in the place of a device. -/
def strangeTree : FileTree :=
  ((((FileTree.empty []).put [['d'], ['0'], "vendor".toList] .directory).put
    [['d'], ['0'], "current_link_speed".toList] (.file [0xD9, 0xA8])).put
    [['d'], ['0'], "power_state".toList] (.file [0xFF])).put [['d'], ['1']] (.file [])

/-- The device of the strange tree and the file beside it are both told of. -/
theorem update_poll_total_strange :
    let c : PcieCollector := ⟨.empty, "/d/".toList⟩
    (∀ slot ∈ [['0'], ['1']], ∃ r, (c.collectDevice strangeTree slot).result = .ok r) ∧
    (Sink.empty.update (c.poll strangeTree).result).2 = .ok 2 ∧
    (∀ n ∈ (c.poll strangeTree).notices, n.level = .debug) := by
  intro c
  have listed : listDevices strangeTree c.root = .ok [['0'], ['1']] := by cbv
  obtain ⟨told, count, -, quiet, -, -⟩ := update_poll_total listed (by decide) .empty
  exact ⟨told, count, quiet⟩

end PcieCollector

end PciInventory
