import PciInventory.Proofs.Terminal.Drawing
import PciInventory.Terminal.Emoji

/-!
# Pictures keep joiners apart

In each picture that can be asked for by name, every joiner stands behind a character that it joins
to the next one. A text without joiners is of that kind too, and so is what becomes of it when the
names in it give way to pictures and the characters that would move the cursor are dropped.
-/
namespace PciInventory

namespace Text
variable {a b t : Text}

/-- A text in which a joiner only stands behind a character that is no joiner, and is not dropped
when the text is shown. -/
def JoinersSupported (t : Text) : Prop :=
  t.head? ≠ some Cell.joiner ∧
    t.IsChain fun c d => d = Cell.joiner → c ≠ Cell.joiner ∧ Markup.isControl c = false

instance : DecidablePred JoinersSupported :=
  fun t => inferInstanceAs (Decidable (t.head? ≠ some Cell.joiner ∧ t.IsChain _))

theorem JoinersSupported.apart (h : JoinersSupported t) : JoinersApart t :=
  h.2.imp fun _ _ supported both => (supported both.2).1 both.1

theorem joinersSupported_of_not_mem (h : Cell.joiner ∉ t) : JoinersSupported t := by
  refine ⟨fun front => h (List.mem_of_head? front), ?_⟩
  induction t with
  | nil => exact .nil
  | cons c rest ih =>
    have others : Cell.joiner ∉ rest := List.not_mem_of_not_mem_cons h
    refine List.isChain_cons.2 ⟨?_, ih others⟩
    rintro d front rfl
    exact absurd (List.mem_of_head? front) others

theorem JoinersSupported.append (ha : JoinersSupported a) (hb : JoinersSupported b) :
    JoinersSupported (a ++ b) := by
  constructor
  · cases a with
    | nil => exact hb.1
    | cons c rest => exact ha.1
  · refine List.IsChain.append ha.2 hb.2 ?_
    rintro c - d front rfl
    exact absurd front hb.1

/-- Dropping the characters that would move the cursor leaves joiners supported. -/
theorem JoinersSupported.filter (h : JoinersSupported t) :
    JoinersSupported (t.filter (!Markup.isControl ·)) := by
  obtain ⟨front, chain⟩ := h
  suffices (t.filter (!Markup.isControl ·)).IsChain
        (fun c d => d = Cell.joiner → c ≠ Cell.joiner ∧ Markup.isControl c = false) ∧
      (t.head? ≠ some Cell.joiner →
        (t.filter (!Markup.isControl ·)).head? ≠ some Cell.joiner) from
    ⟨this.2 front, this.1⟩
  clear front
  induction t with
  | nil => exact ⟨.nil, id⟩
  | cons c rest ih =>
    obtain ⟨next, behind⟩ := List.isChain_cons.1 chain
    obtain ⟨kept, keeps⟩ := ih behind
    cases control : Markup.isControl c with
    | true =>
      -- nothing that is dropped supports a joiner
      have front : rest.head? ≠ some Cell.joiner := by
        intro front
        have supported := (next _ front rfl).2
        rw [control] at supported
        cases supported
      rw [List.filter_cons_of_neg (by simp [control])]
      exact ⟨kept, fun _ => keeps front⟩
    | false =>
      rw [List.filter_cons_of_pos (by simp [control])]
      refine ⟨List.isChain_cons.2 ⟨?_, kept⟩, id⟩
      rintro d front rfl
      refine ⟨?_, control⟩
      rintro rfl
      exact keeps (fun front => (next _ front rfl).1 rfl) front

theorem not_mem_of_mem_splitOn {c d : Char} (h : a ∈ t.splitOn d) (free : c ∉ t) : c ∉ a :=
  fun inside => free ((infix_of_mem_splitOn h).subset inside)

end Text

open Text

namespace Emoji
variable {t word : Text}

/-- Every joiner of a picture joins something. -/
theorem joinersSupported_of_mem_rows : ∀ row ∈ rows, JoinersSupported row.2 := by
  have each : ∀ row ∈ numbers, JoinersSupported (row.2.map Char.ofNat) := by decide +kernel
  intro row hr
  obtain ⟨numbers, hn, rfl⟩ := List.mem_map.1 hr
  exact each numbers hn

theorem joinersSupported_picture? {picture : Text} (h : picture? word = some picture) :
    JoinersSupported picture := by
  have form : JoinersSupported (splitForm word).2 := by
    unfold splitForm
    split
    · exact (by decide : JoinersSupported [coloured])
    · split
      · exact (by decide : JoinersSupported [lettered])
      · exact (by decide : JoinersSupported [])
  obtain ⟨named, found, rfl⟩ := Option.map_eq_some_iff.1 h
  obtain ⟨front, behind, split, -⟩ := List.lookup_eq_some_iff.1 found
  have row : (lower (splitForm word).1, named) ∈ rows := by
    rw [split]
    exact List.mem_append_right _ List.mem_cons_self
  exact (joinersSupported_of_mem_rows _ row).append form

theorem joinersSupported_joinParts {parts : List Text} (h : ∀ part ∈ parts, Cell.joiner ∉ part) :
    JoinersSupported (joinParts parts) := by
  have colon : JoinersSupported [':'] := by decide
  fun_induction joinParts parts with
  | case1 => exact joinersSupported_of_not_mem List.not_mem_nil
  | case2 part => exact joinersSupported_of_not_mem (h part List.mem_cons_self)
  | case3 part last =>
    obtain ⟨hp, hl, -⟩ := by simpa only [List.forall_mem_cons] using h
    exact (joinersSupported_of_not_mem hp).append (colon.append (joinersSupported_of_not_mem hl))
  | case4 part word next rest _ ih =>
    obtain ⟨hp, others⟩ := List.forall_mem_cons.1 h
    exact (joinersSupported_of_not_mem hp).append (colon.append (ih others))
  | case5 part word next rest _ ih =>
    obtain ⟨hp, hw, others⟩ := by simpa only [List.forall_mem_cons] using h
    refine ((joinersSupported_of_not_mem hp).append ?_).append (ih (by simpa using others))
    cases shown : picture? word with
    | some picture => exact joinersSupported_picture? shown
    | none =>
      exact colon.append ((joinersSupported_of_not_mem hw).append colon)

theorem joinersSupported_replace (h : Cell.joiner ∉ t) : JoinersSupported (replace t) :=
  joinersSupported_joinParts fun _ part => not_mem_of_mem_splitOn part h

end Emoji

end PciInventory
