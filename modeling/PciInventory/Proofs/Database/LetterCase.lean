import PciInventory.Database.Reader
import PciInventory.Proofs.Database.Entries
import PciInventory.Proofs.Database.LineParts
import PciInventory.Proofs.Text.LetterCase

/-!
# Letter case of the ids in a database

Ids are lower-cased as they are read, so a file says the same whichever case the hexadecimal letters
of its ids have, in all of its lines. The format makes one exception: a capital C at the very front
of a line is the mark of a class. So the id of a vendor that begins with a small c may not begin
with a capital one; such a line declares a class, under the rest of the id, and what is indented
below it no longer belongs to a vendor.

Nothing is said of the letters of a name, which are kept as they are.
-/
namespace PciInventory

open Text (AlikeButCase)

/-- Line ends behind a gap do not bear on what stands in front of it. -/
theorem Text.dropLineEnd_gap (front name : Text) :
    dropLineEnd (front ++ ' ' :: ' ' :: name) = front ++ ' ' :: ' ' :: dropLineEnd name := by
  have second : dropLineEnd (' ' :: name) = ' ' :: dropLineEnd name :=
    dropLineEnd_append_cons [] (by decide) name
  rw [dropLineEnd_append_cons _ (by decide), second]

/-- With letters of another case in front of it, the first gap is still the first. -/
theorem Declaration.SplitsAtGap.recased {front front' back : Text}
    (h : SplitsAtGap (front ++ ' ' :: ' ' :: back) front back)
    (letters : AlikeButCase front front') :
    SplitsAtGap (front' ++ ' ' :: ' ' :: back) front' back := by
  refine ⟨rfl, fun f b same => ?_⟩
  -- No letter is a space, so where the one text has two spaces the other has them too.
  have whole : AlikeButCase (front ++ ' ' :: ' ' :: back) (f ++ ' ' :: ' ' :: b) := by
    rw [← same]
    exact List.rel_append letters (AlikeButCase.refl _)
  have space {c : Char} (here : Text.Recased c ' ') : c = ' ' :=
    (here.eq_iff ' ' (by decide)).2 rfl
  obtain ⟨c, rest, first, later, gap⟩ :=
    List.forall₂_cons_right_iff.1 (List.forall₂_drop_append _ _ _ whole)
  obtain ⟨c', rest, second, -, rfl⟩ := List.forall₂_cons_right_iff.1 later
  obtain rfl := space first
  obtain rfl := space second
  have split := List.take_append_drop f.length (front ++ ' ' :: ' ' :: back)
  rw [gap] at split
  have least := h.2 _ _ split.symm
  rw [List.length_take, letters.length_eq] at least
  omega

/-- A line in the place of another: the same line or, where that line declares something, one with
some hexadecimal letters of its id in the other case. The id is what stands between the lead of the
line and its first gap. -/
inductive IdRecased (line line' : Text) : Prop where
  | kept (same : line' = line)
  | recased {front front' name : Text} {rank : LineRank} {d : Declaration}
      (declares : LineDeclares (Text.dropLineEnd line) rank d)
      (gap : Declaration.SplitsAtGap line (rank.lead ++ front) name)
      (letters : AlikeButCase front front')
      (split : line' = rank.lead ++ front' ++ ' ' :: ' ' :: name)

/-- A line in the place of another that differs in the case of its id only and has no mark of a
class which the other has not. -/
structure RecasedInRank (line line' : Text) : Prop where
  recased : IdRecased line line'
  unmarked : line'.head? = some 'C' → line.head? = some 'C'

section Lines
variable {line line' front front' name : Text} {rank : LineRank} {d : Declaration}

/-- What may stand behind a lead may stand there in other letters, but for the mark of a class. -/
theorem LineRank.Admits.recased (h : rank.Admits front) (letters : AlikeButCase front front')
    (unmarked : rank = .vendor → front'.head? ≠ some 'C') : rank.Admits front' := by
  have noTab := (Text.head?_congr letters '\t' (by decide)).not
  cases rank with
  | vendor =>
    have noComment := (Text.head?_congr letters '#' (by decide)).not
    exact ⟨noTab.1 h.1, unmarked rfl, noComment.1 h.2.2⟩
  | deviceClass => trivial
  | indented n => exact ⟨h.1, noTab.1 h.2⟩

theorem LineDeclares.recased (h : LineDeclares line rank d)
    (gap : Declaration.SplitsAtGap line (rank.lead ++ front) name)
    (letters : AlikeButCase front front')
    (unmarked : rank = .vendor → front'.head? ≠ some 'C') :
    LineDeclares (rank.lead ++ front' ++ ' ' :: ' ' :: name) rank d := by
  obtain ⟨id, name', split, visible, admits, rfl⟩ := h.splitsAtGap
  obtain ⟨same, rfl⟩ := gap.unique split
  obtain rfl := List.append_cancel_left same
  have lead : AlikeButCase (rank.lead ++ front) (rank.lead ++ front') :=
    List.rel_append (AlikeButCase.refl rank.lead) letters
  rw [gap.1] at gap
  rw [Text.lower_congr (Text.strip_congr letters)]
  exact lineDeclares_of_splitsAtGap (gap.recased lead)
    ((Text.strip_eq_nil_congr letters).not.1 visible) (admits.recased letters unmarked)

theorem LineDeclares.unmarked (h : LineDeclares line .vendor d) : line.head? ≠ some 'C' := by
  obtain ⟨-, -, tabs, body, rfl, -, rfl, noClass, -⟩ := h
  exact noClass

theorem RecasedInRank.advance_eq (h : RecasedInRank line line') (ctx : Context) :
    ctx.advance (Text.dropLineEnd line) = ctx.advance (Text.dropLineEnd line') := by
  obtain ⟨recased, unmarked⟩ := h
  cases recased with
  | kept same => rw [same]
  | @recased front front' name rank d declares gap letters split =>
    have whole := gap.1
    subst whole split
    rw [Text.dropLineEnd_gap] at declares ⊢
    have here : rank = .vendor → front'.head? ≠ some 'C' := by
      rintro rfl marked
      cases letters with
      | nil => cases marked
      | cons first later => exact declares.unmarked (unmarked marked)
    rw [Text.dropLineEnd_gap, Context.advance_of_declares declares,
      Context.advance_of_declares (declares.recased (gap.renamed _) letters here)]

/-- The two lines by their parts: the rank in which the reader finds the first to declare, the id in
either form, and what stands behind the gap. -/
theorem idRecased_of_parts (rank : LineRank) (front front' name : Text)
    (found : (Context.declared? (Text.dropLineEnd (rank.lead ++ front ++ ' ' :: ' ' :: name))).map
      (·.1) = some rank)
    (gap : Declaration.splitAtGap? (rank.lead ++ front ++ ' ' :: ' ' :: name) =
      some (rank.lead ++ front, name))
    (letters : AlikeButCase front front') :
    IdRecased (rank.lead ++ front ++ ' ' :: ' ' :: name)
      (rank.lead ++ front' ++ ' ' :: ' ' :: name) := by
  obtain ⟨⟨rank, d⟩, declares, rfl⟩ := Option.map_eq_some_iff.1 found
  exact .recased (Context.declared?_eq_some_iff.1 declares)
    (Declaration.splitAtGap?_eq_some_iff.1 gap) letters rfl

end Lines

namespace Database

/-- Lines whose ids are in letters of another case, none of them with a capital C in front that was
not there, make the same database. -/
theorem ofLines_recasedInRank {lines lines' : List Text}
    (h : List.Forall₂ RecasedInRank lines lines') (source : Option Text) :
    ofLines lines source = ofLines lines' source := by
  have reading (r : Reading) : lines.foldl Reading.feed r = lines'.foldl Reading.feed r := by
    induction h generalizing r with
    | nil => rfl
    | cons here later ih =>
      rw [List.foldl_cons, List.foldl_cons, Reading.feed, Reading.feed,
        here.advance_eq r.context, ih]
  rw [ofLines, ofLines, reading]

/-- Letters of a vendor, a device, a subsystem and a class, each in some other case; the small c in
front of the vendor stays. -/
theorem ofLines_recasedInRank_sample :
    let lines := ["c0de  Vendor\r".toList, "\tFace  Device".toList,
      "\t\t1aF4 be00  Board".toList, "C0C  Bus".toList]
    let lines' := ["c0DE  Vendor\r".toList, "\tfacE  Device".toList,
      "\t\t1Af4 Be00  Board".toList, "C0c  Bus".toList]
    List.Forall₂ RecasedInRank lines lines' ∧ ofLines lines none = ofLines lines' none ∧
    (ofLines lines' none).name? (.subsystem "c0de:face".toList "1af4:be00".toList) =
      some "Board".toList := by
  intro lines lines'
  have vendor : IdRecased "c0de  Vendor\r".toList "c0DE  Vendor\r".toList :=
    idRecased_of_parts .vendor "c0de".toList "c0DE".toList "Vendor\r".toList (by decide +kernel)
      (by decide +kernel) (by decide +kernel)
  have device : IdRecased "\tFace  Device".toList "\tfacE  Device".toList :=
    idRecased_of_parts (.indented 1) "Face".toList "facE".toList "Device".toList (by decide +kernel)
      (by decide +kernel) (by decide +kernel)
  have board : IdRecased "\t\t1aF4 be00  Board".toList "\t\t1Af4 Be00  Board".toList :=
    idRecased_of_parts (.indented 2) "1aF4 be00".toList "1Af4 Be00".toList "Board".toList
      (by decide +kernel) (by decide +kernel) (by decide +kernel)
  have bus : IdRecased "C0C  Bus".toList "C0c  Bus".toList :=
    idRecased_of_parts .deviceClass "0C".toList "0c".toList "Bus".toList (by decide +kernel)
      (by decide +kernel) (by decide +kernel)
  have recased : List.Forall₂ RecasedInRank lines lines' :=
    .cons ⟨vendor, by decide⟩ (.cons ⟨device, by decide⟩
      (.cons ⟨board, by decide⟩ (.cons ⟨bus, by decide⟩ .nil)))
  refine ⟨recased, ofLines_recasedInRank recased none, ?_⟩
  decide +kernel

/-- A small c in front of a vendor's line is not the same as a capital one: the vendor becomes a
class, and its device a subclass. -/
theorem ofLines_idRecased_mark :
    let lines := ["c0de  Vendor".toList, "\t0001  Device".toList]
    let lines' := ["C0de  Vendor".toList, "\t0001  Device".toList]
    List.Forall₂ IdRecased lines lines' ∧ ofLines lines none ≠ ofLines lines' none ∧
    (ofLines lines none).name? (.device "c0de".toList "0001".toList) = some "Device".toList ∧
    (ofLines lines' none).vendors.isEmpty = true ∧ (ofLines lines' none).devices.isEmpty = true ∧
    (ofLines lines' none).name? (.subclass "0de0001".toList) = some "Device".toList := by
  intro lines lines'
  have vendor : IdRecased "c0de  Vendor".toList "C0de  Vendor".toList :=
    idRecased_of_parts .vendor "c0de".toList "C0de".toList "Vendor".toList (by decide +kernel)
      (by decide +kernel) (by decide +kernel)
  refine ⟨.cons vendor (.cons (.kept rfl) .nil), ?_, ?_, ?_, ?_, ?_⟩
  · decide +kernel
  · decide +kernel
  · decide +kernel
  · decide +kernel
  · decide +kernel

end Database

end PciInventory
