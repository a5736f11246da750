import PciInventory.Proofs.Database.Catalogue
import PciInventory.Proofs.Database.Declaring

/-!
# Spelling of declarations

A declaration that a catalogue writes is read back as its id and its name whatever stands in the
name: the first gap is the one behind the id, since no id has two spaces in a row, and the tabs or
the capital C in front say in which rank the line stands.
-/
namespace PciInventory

namespace Declaration

theorem splitAtGap?_cons {c : Char} (h : c ≠ ' ') (rest : Text) :
    splitAtGap? (c :: rest) = (splitAtGap? rest).map fun (front, back) => (c :: front, back) :=
  splitAtGap?.eq_3 c rest fun _ hc _ => h hc

theorem splitAtGap?_space {c : Char} (h : c ≠ ' ') (rest : Text) : splitAtGap? (' ' :: c :: rest) =
    (splitAtGap? (c :: rest)).map fun (front, back) => (' ' :: front, back) :=
  splitAtGap?.eq_3 ' ' (c :: rest) fun _ _ hr => h (List.cons.inj hr).1

theorem splitAtGap?_word {word : Text} (h : ∀ c ∈ word, c ≠ ' ') (rest : Text) :
    splitAtGap? (word ++ rest) =
      (splitAtGap? rest).map fun (front, back) => (word ++ front, back) := by
  induction word with
  | nil => cases e : splitAtGap? rest <;> simp [e]
  | cons c word ih =>
    rw [List.cons_append, splitAtGap?_cons (h c List.mem_cons_self),
      ih fun c hc => h c (List.mem_cons_of_mem _ hc)]
    cases splitAtGap? rest <;> rfl

theorem splitAtGap?_gap (back : Text) : splitAtGap? (' ' :: ' ' :: back) = some ([], back) := rfl

theorem declares_of_splitAtGap? {body front id name : Text}
    (apart : splitAtGap? body = some (front, name)) (trimmed : Text.strip front = id)
    (some : id ≠ []) (plain : Text.lower id = id) (whole : Text.strip name = name) :
    Declares body ⟨id, name⟩ := by
  refine ⟨front, name, splitAtGap?_eq_some_iff.1 apart, ?_, ?_⟩
  · rw [trimmed]
    exact some
  · rw [trimmed, plain, whole]

end Declaration

namespace Catalogue

/-- A word that may be an id: not empty, and with plain characters only. -/
structure IsId (word : Text) : Prop where
  some : word ≠ []
  plain : ∀ c ∈ word, Text.IsPlain c

theorem isId_hex {w : Nat} (h : 4 ≤ w) (x : BitVec w) : IsId (hex x) := by
  refine ⟨?_, fun c hc => Text.isPlain_of_mem_hexDigits hc⟩
  intro none
  have length := length_hex x
  rw [none, List.length_nil] at length
  omega

theorem isId_hex16 (x : BitVec 16) : IsId (hex x) := isId_hex (by decide) x

theorem isId_hex8 (x : BitVec 8) : IsId (hex x) := isId_hex (by decide) x

namespace IsId
variable {word : Text}

theorem ne_space (h : IsId word) : ∀ c ∈ word, c ≠ ' ' := by
  rintro c hc rfl
  cases (h.plain ' ' hc).notBlank

theorem strip_eq (h : IsId word) : Text.strip word = word :=
  Text.strip_eq_self_of_forall fun c hc => (h.plain c hc).notBlank

theorem lower_eq (h : IsId word) : Text.lower word = word :=
  Text.lower_eq_self fun c hc => ⟨(h.plain c hc).notSigma, (h.plain c hc).lowerOf⟩

theorem isOneLine (h : IsId word) : Text.IsOneLine word :=
  Text.isOneLine_of_forall_not_blank fun c hc => (h.plain c hc).notBlank

theorem exists_cons (h : IsId word) : ∃ c rest, word = c :: rest ∧ Text.IsPlain c := by
  obtain ⟨c, rest, rfl⟩ := List.exists_cons_of_ne_nil h.some
  exact ⟨c, rest, rfl, h.plain c List.mem_cons_self⟩

/-- A declaration of an id is read back whole, whatever its name is. -/
theorem declares (h : IsId word) (name : Name) :
    Declaration.Declares (declaration word name) ⟨word, name.text⟩ := by
  refine Declaration.declares_of_splitAtGap? ?_ h.strip_eq h.some h.lower_eq name.trimmed
  rw [declaration, Declaration.splitAtGap?_word h.ne_space, Declaration.splitAtGap?_gap]
  simp

/-- One space in front of a declaration, as behind the capital C of a class, is not a gap. -/
theorem declares_behind_space (h : IsId word) (name : Name) :
    Declaration.Declares (' ' :: declaration word name) ⟨word, name.text⟩ := by
  obtain ⟨c, rest, rfl, plain⟩ := h.exists_cons
  have front : Text.strip (' ' :: c :: rest) = c :: rest := by
    rw [Text.strip_space_cons, h.strip_eq]
  refine Declaration.declares_of_splitAtGap? ?_ front h.some h.lower_eq name.trimmed
  rw [declaration, List.cons_append,
    Declaration.splitAtGap?_space (h.ne_space c List.mem_cons_self), ← List.cons_append,
    Declaration.splitAtGap?_word h.ne_space, Declaration.splitAtGap?_gap]
  simp

theorem strip_pair {second : Text} (h : IsId word) (h' : IsId second) :
    Text.strip (word ++ ' ' :: second) = word ++ ' ' :: second := by
  obtain ⟨first, rest, rfl, plain⟩ := h.exists_cons
  refine Text.strip_eq_self ?_ ?_
  · intro c hc
    cases hc
    exact plain.notBlank
  · intro c hc
    rw [List.append_cons, List.getLast?_append_of_ne_nil _ h'.some] at hc
    exact (h'.plain c (List.mem_of_getLast? hc)).notBlank

theorem lower_pair {second : Text} (h : IsId word) (h' : IsId second) :
    Text.lower (word ++ ' ' :: second) = word ++ ' ' :: second := by
  refine Text.lower_eq_self ?_
  intro c hc
  rcases List.mem_append.1 hc with hc | hc
  · exact ⟨(h.plain c hc).notSigma, (h.plain c hc).lowerOf⟩
  · rcases List.mem_cons.1 hc with rfl | hc
    · decide
    · exact ⟨(h'.plain c hc).notSigma, (h'.plain c hc).lowerOf⟩

/-- Two ids with one space between them are the id of a declaration. -/
theorem declares_pair {second : Text} (h : IsId word) (h' : IsId second) (name : Name) :
    Declaration.Declares (declaration (word ++ ' ' :: second) name)
      ⟨word ++ ' ' :: second, name.text⟩ := by
  refine Declaration.declares_of_splitAtGap? ?_ (strip_pair h h') (by simp) (lower_pair h h')
    name.trimmed
  obtain ⟨c, rest, rfl, plain⟩ := h'.exists_cons
  rw [declaration, List.append_assoc, Declaration.splitAtGap?_word h.ne_space, List.cons_append,
    List.cons_append, Declaration.splitAtGap?_space (h'.ne_space c List.mem_cons_self),
    ← List.cons_append, Declaration.splitAtGap?_word h'.ne_space, Declaration.splitAtGap?_gap]
  simp

theorem subsystemKey_pair {second : Text} (h : IsId word) (h' : IsId second) :
    Context.subsystemKey (word ++ ' ' :: second) = Database.pairKey word second := by
  rw [Context.subsystemKey, Text.words_pair (fun c hc => (h.plain c hc).notBlank)
    (fun c hc => (h'.plain c hc).notBlank) h.some h'.some]
  simp [Text.joinWith, Database.pairKey]

theorem vendor_line (h : IsId word) (name : Name) :
    LineDeclares (declaration word name) .vendor ⟨word, name.text⟩ := by
  have declares := h.declares name
  obtain ⟨c, rest, rfl, plain⟩ := h.exists_cons
  refine ⟨Text.strip_ne_nil_of_mem List.mem_cons_self plain.notBlank, ?_, 0, _, rfl, ?_, rfl, ?_,
    declares⟩
  · simpa [declaration] using plain.noMark.1
  · rintro tab
    cases tab
    cases plain.notBlank
  · simpa [declaration] using plain.noMark.2

theorem class_line (h : IsId word) (name : Name) :
    LineDeclares ('C' :: ' ' :: declaration word name) .deviceClass ⟨word, name.text⟩ :=
  ⟨Text.strip_ne_nil_of_mem List.mem_cons_self (by decide), by simp, 0, _, rfl, by simp, rfl, _,
    rfl, h.declares_behind_space name⟩

end IsId

/-- A declaration behind some tabs, whatever it declares. -/
theorem indented_line (tabs : Nat) {id : Text} {name : Name} {d : Declaration} (some : 0 < tabs)
    (first : ∃ c rest, id = c :: rest ∧ Text.IsPlain c)
    (declares : Declaration.Declares (declaration id name) d) :
    LineDeclares (List.replicate tabs '\t' ++ declaration id name) (.indented tabs) d := by
  obtain ⟨c, rest, rfl, plain⟩ := first
  obtain ⟨n, rfl⟩ := Nat.exists_eq_succ_of_ne_zero some.ne'
  refine ⟨?_, by simp [List.replicate_succ], n + 1, _, rfl, ?_, rfl, some, declares⟩
  · exact Text.strip_ne_nil_of_mem (List.mem_append_right _ List.mem_cons_self) plain.notBlank
  · intro tab
    cases tab
    cases plain.notBlank

theorem isOneLine_declaration {id : Text} (h : Text.IsOneLine id) (name : Name) :
    Text.IsOneLine (declaration id name) :=
  h.append ((name.oneLine.cons (by decide)).cons (by decide))

theorem IsId.member_line {word : Text} (h : IsId word) (name : Name) :
    LineDeclares ('\t' :: declaration word name) (.indented 1) ⟨word, name.text⟩ :=
  indented_line 1 (by decide) h.exists_cons (h.declares name)

theorem Interface.line_declares (i : Interface) :
    LineDeclares i.line (.indented 2) ⟨hex i.id, i.name.text⟩ :=
  indented_line 2 (by decide) (isId_hex8 _).exists_cons ((isId_hex8 _).declares i.name)

theorem Subsystem.line_declares (s : Subsystem) :
    LineDeclares s.line (.indented 2) ⟨s.ids, s.name.text⟩ := by
  refine indented_line 2 (by decide) ?_ (IsId.declares_pair (isId_hex16 _) (isId_hex16 _) s.name)
  obtain ⟨c, rest, digits, plain⟩ := (isId_hex16 s.vendor).exists_cons
  exact ⟨c, rest ++ ' ' :: hex s.device, by rw [Subsystem.ids, digits, List.cons_append], plain⟩

theorem Subsystem.isOneLine_line (s : Subsystem) : Text.IsOneLine s.line := by
  have ids : Text.IsOneLine s.ids :=
    (isId_hex16 s.vendor).isOneLine.append ((isId_hex16 s.device).isOneLine.cons (by decide))
  exact ((isOneLine_declaration ids s.name).cons (by decide)).cons (by decide)

theorem Vendor.isOneLine_lines {v : Vendor} : ∀ line ∈ v.lines, Text.IsOneLine line := by
  have id (x : BitVec 16) (name : Name) : Text.IsOneLine (declaration (hex x) name) :=
    isOneLine_declaration (isId_hex16 x).isOneLine name
  intro line hl
  rcases List.mem_cons.1 hl with rfl | hl
  · exact id v.id v.name
  · obtain ⟨d, -, hl⟩ := List.mem_flatMap.1 hl
    rcases List.mem_cons.1 hl with rfl | hl
    · exact (id d.id d.name).cons (by decide)
    · obtain ⟨s, -, rfl⟩ := List.mem_map.1 hl
      exact s.isOneLine_line

theorem DeviceClass.isOneLine_lines {c : DeviceClass} : ∀ line ∈ c.lines, Text.IsOneLine line := by
  have id (x : BitVec 8) (name : Name) : Text.IsOneLine (declaration (hex x) name) :=
    isOneLine_declaration (isId_hex8 x).isOneLine name
  intro line hl
  rcases List.mem_cons.1 hl with rfl | hl
  · exact ((id c.id c.name).cons (by decide)).cons (by decide)
  · obtain ⟨s, -, hl⟩ := List.mem_flatMap.1 hl
    rcases List.mem_cons.1 hl with rfl | hl
    · exact (id s.id s.name).cons (by decide)
    · obtain ⟨i, -, rfl⟩ := List.mem_map.1 hl
      exact ((id i.id i.name).cons (by decide)).cons (by decide)

theorem Chapter.isOneLine_lines (chapters : List Chapter) :
    ∀ line ∈ chapters.flatMap Chapter.lines, Text.IsOneLine line := by
  intro line hl
  obtain ⟨v | c, -, hl⟩ := List.mem_flatMap.1 hl
  · exact v.isOneLine_lines line hl
  · exact c.isOneLine_lines line hl

end Catalogue

end PciInventory
