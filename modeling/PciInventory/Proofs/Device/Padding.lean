import PciInventory.Proofs.Device.Poll
import PciInventory.Proofs.FileTree.Contents
import PciInventory.Proofs.Text.Padding

/-!
# Blanks around attributes

What an attribute's file holds counts without the blanks around it, so a poll reports the same of
trees in which only blanks have been added in front of the contents of files and behind them. This
does not rest on the readers of the single attributes, some of which would take a blank amiss: none
of them gets to see one. It holds as well of a file with nothing in it, which stays a file with
nothing to read, and of a file whose bytes are no text, which blanks do not mend.
-/
namespace PciInventory

namespace Text.Utf8

/-- Some bytes, and the same with blanks in front of them and behind. -/
inductive GainsBlanks (bytes : List UInt8) : List UInt8 → Prop where
  | intro {before after : Text} (front : IsBlanks before) (back : IsBlanks after) :
      GainsBlanks bytes (encode before ++ (bytes ++ encode after))

theorem GainsBlanks.refl (bytes : List UInt8) : GainsBlanks bytes bytes := by
  have none : GainsBlanks bytes (encode [] ++ (bytes ++ encode [])) := .intro nofun nofun
  simpa [encode] using none

theorem encode_append (t t' : Text) : encode (t ++ t') = encode t ++ encode t' :=
  List.flatMap_append

theorem GainsBlanks.trans {a b c : List UInt8} (h : GainsBlanks a b) (h' : GainsBlanks b c) :
    GainsBlanks a c := by
  cases h with
  | @intro before after front back =>
    cases h' with
    | @intro before' after' front' back' =>
      have together :
          GainsBlanks a (encode (before' ++ before) ++ (a ++ encode (after ++ after'))) :=
        .intro (List.forall_mem_append.2 ⟨front', front⟩) (List.forall_mem_append.2 ⟨back, back'⟩)
      simpa [encode_append] using together

end Text.Utf8

open Text.Utf8

/-- An attribute's text does not depend on the blanks around its bytes. -/
theorem attributeOfBytes_of_gainsBlanks {bytes bytes' : List UInt8}
    (h : GainsBlanks bytes bytes') : attributeOfBytes bytes' = attributeOfBytes bytes := by
  cases h with
  | intro front back =>
    unfold attributeOfBytes
    rw [decode?_surrounded]
    cases decode? bytes with
    | none => rfl
    | some t => exact Text.Padded.strip_unifyLineEnds (.intro front back)

section Poll
variable {tree tree' : FileTree}

theorem attributeText_of_gainsBlanks (padded : tree.SameUpTo GainsBlanks tree') (path : Text) :
    attributeText tree' path = attributeText tree path := by
  unfold attributeText
  rcases padded.contentAt_cases path with ⟨refusal, read, read'⟩ | ⟨_, _, read, read', gains⟩
  · rw [read, read']
  · rw [read, read']
    exact attributeOfBytes_of_gainsBlanks gains

theorem readDevice_of_gainsBlanks (padded : tree.SameUpTo GainsBlanks tree') (root slot : Text) :
    readDevice tree' root slot = readDevice tree root slot := by
  simp only [readDevice, attributeText_of_gainsBlanks padded]

/-- The devices are listed alike, whatever the contents of the files are. -/
theorem listDevices_of_sameUpTo {R : List UInt8 → List UInt8 → Prop} (same : tree.SameUpTo R tree')
    (root : Text) : listDevices tree' root = listDevices tree root := by
  simp only [listDevices, same.listDirectory]

namespace PcieCollector

/-- A poll reports the same, and says the same, of a tree in which blanks have been added around the
contents of files. -/
theorem update_poll_padded {tree tree' : FileTree} (padded : tree.SameUpTo GainsBlanks tree')
    (c : PcieCollector) (sink : Sink) :
    sink.update (c.poll tree').result = sink.update (c.poll tree).result ∧
      (c.poll tree').notices = (c.poll tree).notices := by
  have device (slot : Text) : c.collectDevice tree' slot = c.collectDevice tree slot := by
    unfold collectDevice
    rw [readDevice_of_gainsBlanks padded]
  have polled : c.poll tree' = c.poll tree := by
    unfold poll pollWith
    rw [listDevices_of_sameUpTo padded, funext device]
  rw [polled]
  exact ⟨rfl, rfl⟩

/-- A device whose vendor has line ends around it, whose power state breaks off within a character
and whose revision is empty. -/
def raggedTree : FileTree :=
  (((FileTree.empty []).put
    [['d'], ['0'], "vendor".toList] (.file [0x0A, 0x30, 0x78, 0x31, 0x0D])).put
    [['d'], ['0'], "power_state".toList] (.file [0x44, 0x30, 0xE2, 0x80])).put
    [['d'], ['0'], "revision".toList] (.file [])

/-- The ragged tree with a carriage return in front of the vendor and a line feed behind it, a wide
space behind the power state, and blanks for a revision. -/
def paddedTree : FileTree :=
  ((raggedTree.put [['d'], ['0'], "vendor".toList]
    (.file (encode ['\r'] ++ ([0x0A, 0x30, 0x78, 0x31, 0x0D] ++ encode ['\n'])))).put
    [['d'], ['0'], "power_state".toList]
    (.file (encode [] ++ ([0x44, 0x30, 0xE2, 0x80] ++ encode ['\u2003'])))).put
    [['d'], ['0'], "revision".toList] (.file (encode ['\t'] ++ ([] ++ encode ['\u3000', '\n'])))

/-- The padded tree is told of as the ragged one. -/
theorem update_poll_padded_ragged :
    let c : PcieCollector := ⟨.empty, "/d".toList⟩
    raggedTree.SameUpTo GainsBlanks paddedTree ∧
      Sink.empty.update (c.poll paddedTree).result = Sink.empty.update (c.poll raggedTree).result ∧
      (Sink.empty.update (c.poll paddedTree).result).2 = .ok 1 := by
  intro c
  have blanks {t : Text} (h : t.all Text.isBlank = true) : Text.IsBlanks t := List.all_eq_true.1 h
  have padded : raggedTree.SameUpTo GainsBlanks paddedTree := by
    unfold paddedTree
    refine .trans .trans (.trans .trans (FileTree.sameUpTo_put .refl ?_ (.intro ?_ ?_))
      (FileTree.sameUpTo_put .refl ?_ (.intro ?_ ?_)))
      (FileTree.sameUpTo_put .refl ?_ (.intro ?_ ?_))
    all_goals first
      | exact blanks (by decide)
      | decide +kernel
  have same := (update_poll_padded padded c .empty).1
  have listed : listDevices raggedTree c.root = .ok [['0']] := by decide +kernel
  refine ⟨padded, same, ?_⟩
  rw [same]
  simp only [poll, pollWith, listed]
  rfl

end PcieCollector

end Poll

end PciInventory
