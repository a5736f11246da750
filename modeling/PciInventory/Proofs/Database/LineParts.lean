import PciInventory.Proofs.Database.Declaring
import PciInventory.Proofs.Text.Trimming

/-!
# Parts of a declaring line

A declaring line has a lead, which its rank decides, then its id, the first gap of two spaces and
its name. Here the gap is looked for in the whole line: no lead has a space in it, so the first gap
of the line is that of the text behind the lead. A line with these parts declares, and no other
does, if only its id is not blank and does not go on with the lead or begin a comment.

Where the line stands in a file plays no part here.
-/
namespace PciInventory

namespace Declaration

theorem SplitsAtGap.renamed {front name : Text}
    (h : SplitsAtGap (front ++ ' ' :: ' ' :: name) front name) (name' : Text) :
    SplitsAtGap (front ++ ' ' :: ' ' :: name') front name' := by
  refine ⟨rfl, fun f b same => ?_⟩
  by_contra shorter
  -- A gap further in front would end before the name, and so stand in front of the old name too.
  have gap : f ++ [' ', ' '] <+: front ++ ' ' :: ' ' :: name' := ⟨b, by simp [same]⟩
  have own : front ++ [' ', ' '] <+: front ++ ' ' :: ' ' :: name' := ⟨name', by simp⟩
  have before : f ++ [' ', ' '] <+: front ++ [' ', ' '] := by
    refine List.prefix_of_prefix_length_le gap own ?_
    simp only [List.length_append, List.length_cons, List.length_nil]
    omega
  obtain ⟨more, split⟩ := before
  refine shorter (h.2 f (more ++ name) ?_)
  have whole : front ++ ' ' :: ' ' :: name = (front ++ [' ', ' ']) ++ name := by simp
  rw [whole, ← split]
  simp

/-- Characters other than a space in front of a text stand in front of its first gap. -/
theorem splitsAtGap_append_iff {text front back lead : Text} (solid : ' ' ∉ lead) :
    SplitsAtGap (lead ++ text) (lead ++ front) back ↔ SplitsAtGap text front back := by
  constructor
  · rintro ⟨split, first⟩
    rw [List.append_assoc, List.append_cancel_left_eq] at split
    refine ⟨split, fun f b same => ?_⟩
    have := first (lead ++ f) b (by rw [same, List.append_assoc])
    simpa using this
  · rintro ⟨split, first⟩
    refine ⟨by rw [split, List.append_assoc], fun f b same => ?_⟩
    rcases List.append_eq_append_iff.1 same with ⟨more, rfl, ht⟩ | ⟨more, rfl, hb⟩
    · simpa using first more b ht
    · cases more with
      | nil =>
        have := first [] b hb.symm
        simp only [List.length_nil, Nat.le_zero, List.length_eq_zero_iff] at this
        simp [this]
      | cons c more =>
        obtain ⟨rfl, -⟩ := List.cons.inj hb
        simp at solid

end Declaration

namespace LineRank

/-- What stands in front of the id of a line. -/
def lead : LineRank → Text
  | .vendor => []
  | .deviceClass => ['C']
  | .indented n => List.replicate n '\t'

/-- A text that is not taken for part of a lead, or for a comment, where it stands behind a lead. -/
def Admits : LineRank → Text → Prop
  | .vendor, front => front.head? ≠ some '\t' ∧ front.head? ≠ some 'C' ∧ front.head? ≠ some '#'
  | .deviceClass, _ => True
  | .indented n, front => 0 < n ∧ front.head? ≠ some '\t'

theorem space_not_mem_lead (rank : LineRank) : ' ' ∉ rank.lead := by
  cases rank with
  | vendor => exact List.not_mem_nil
  | deviceClass => decide
  | indented n =>
    intro h
    exact absurd (List.eq_of_mem_replicate h) (by decide)

end LineRank

section Parts
variable {line front name : Text} {rank : LineRank} {d : Declaration}

theorem splitsAtGap_lead_iff (rank : LineRank) {text : Text} :
    Declaration.SplitsAtGap (rank.lead ++ text) (rank.lead ++ front) name ↔
      Declaration.SplitsAtGap text front name :=
  Declaration.splitsAtGap_append_iff rank.space_not_mem_lead

/-- What is not blank begins a text as it begins by itself. -/
theorem head?_of_splitsAtGap {text : Text} (split : Declaration.SplitsAtGap text front name)
    (visible : Text.strip front ≠ []) : text.head? = front.head? := by
  rw [split.1]
  exact List.head?_append_of_ne_nil _ fun none => visible (by rw [none]; rfl)

/-- A declaring line has the lead of its rank and an id in front of its first gap. -/
theorem LineDeclares.splitsAtGap (h : LineDeclares line rank d) :
    ∃ front name, Declaration.SplitsAtGap line (rank.lead ++ front) name ∧
      Text.strip front ≠ [] ∧ rank.Admits front ∧
      d = ⟨Text.lower (Text.strip front), Text.strip name⟩ := by
  obtain ⟨-, comment, tabs, body, rfl, noTab, what⟩ := h
  cases rank with
  | vendor =>
    obtain ⟨rfl, noClass, front, name, split, visible, rfl⟩ := what
    have same := head?_of_splitsAtGap split visible
    exact ⟨front, name, split, visible, ⟨same ▸ noTab, same ▸ noClass, same ▸ comment⟩, rfl⟩
  | deviceClass =>
    obtain ⟨rfl, rest, rfl, front, name, split, visible, rfl⟩ := what
    exact ⟨front, name, (splitsAtGap_lead_iff .deviceClass).2 split, visible, trivial, rfl⟩
  | indented n =>
    obtain ⟨rfl, some, front, name, split, visible, rfl⟩ := what
    have same := head?_of_splitsAtGap split visible
    exact ⟨front, name, (splitsAtGap_lead_iff (.indented tabs)).2 split, visible,
      ⟨some, same ▸ noTab⟩, rfl⟩

/-- A line with the lead of a rank and an id in front of its first gap declares them. -/
theorem lineDeclares_of_splitsAtGap
    (split : Declaration.SplitsAtGap line (rank.lead ++ front) name)
    (visible : Text.strip front ≠ []) (admits : rank.Admits front) :
    LineDeclares line rank ⟨Text.lower (Text.strip front), Text.strip name⟩ := by
  obtain ⟨text, rfl⟩ : ∃ text, line = rank.lead ++ text :=
    ⟨front ++ ' ' :: ' ' :: name, by rw [split.1, List.append_assoc]⟩
  have behind := (splitsAtGap_lead_iff rank).1 split
  have same := head?_of_splitsAtGap behind visible
  have spoken : Text.strip (rank.lead ++ text) ≠ [] := by
    intro blank
    refine visible (Text.strip_eq_nil_iff.2 fun c hc => Text.strip_eq_nil_iff.1 blank c ?_)
    rw [behind.1]
    simp [hc]
  cases rank with
  | vendor =>
    obtain ⟨noTab, noClass, noComment⟩ := admits
    rw [← same] at noTab noClass noComment
    exact ⟨spoken, noComment, 0, text, rfl, noTab, rfl, noClass,
      front, name, behind, visible, rfl⟩
  | deviceClass =>
    exact ⟨spoken, by simp [LineRank.lead], 0, 'C' :: text, rfl, by simp, rfl, text, rfl,
      front, name, behind, visible, rfl⟩
  | indented n =>
    obtain ⟨some, noTab⟩ := admits
    rw [← same] at noTab
    obtain ⟨m, rfl⟩ := Nat.exists_eq_succ_of_ne_zero some.ne'
    exact ⟨spoken, by simp [LineRank.lead, List.replicate_succ], m + 1, text, rfl, noTab, rfl,
      some, front, name, behind, visible, rfl⟩

end Parts

end PciInventory
