import PciInventory.Database.Line

/-!
# Declaring lines

What a line of a database declares, said of the line alone and without the way it is read: the
leading tabs, the capital C, the first gap of two spaces and the id in front of it. A line declares
at most one thing. The main statements give the step of the reader for each line: a declaring line
acts by its rank and its declaration only, and any other line changes nothing.
-/
namespace PciInventory

theorem Text.lower_eq_nil_iff {t : Text} : Text.lower t = [] ↔ t = [] := by
  cases t with
  | nil => simp [Text.lower, Text.Case.lowerFrom]
  | cons c rest =>
    have some : Text.Case.lowerOf c ≠ [] := by
      unfold Text.Case.lowerOf
      split <;> simp
    simp only [Text.lower, Text.Case.lowerFrom]
    split <;> simp [some]

namespace Declaration

/-- A text is apart at its first gap: two spaces in a row stand between `front` and `back`, and none
stand further in front. -/
def SplitsAtGap (t front back : Text) : Prop :=
  t = front ++ ' ' :: ' ' :: back ∧
    ∀ front' back', t = front' ++ ' ' :: ' ' :: back' → front.length ≤ front'.length

theorem SplitsAtGap.unique {t f b f' b' : Text} (h : SplitsAtGap t f b)
    (h' : SplitsAtGap t f' b') : f = f' ∧ b = b' := by
  have same : f.length = f'.length := Nat.le_antisymm (h.2 f' b' h'.1) (h'.2 f b h.1)
  obtain ⟨hf, hb⟩ := List.append_inj (h.1.symm.trans h'.1) same
  simp only [List.cons.injEq, true_and] at hb
  exact ⟨hf, hb⟩

theorem splitAtGap?_sound {t front back : Text} (h : splitAtGap? t = some (front, back)) :
    SplitsAtGap t front back := by
  induction t using splitAtGap?.induct generalizing front back with
  | case1 => simp [splitAtGap?] at h
  | case2 rest =>
    simp only [splitAtGap?, Option.some.injEq, Prod.mk.injEq] at h
    obtain ⟨rfl, rfl⟩ := h
    exact ⟨rfl, fun _ _ _ => Nat.zero_le _⟩
  | case3 c rest apart ih =>
    rw [splitAtGap?.eq_3 c rest apart] at h
    obtain ⟨⟨f, b⟩, hs, he⟩ := Option.map_eq_some_iff.1 h
    simp only [Prod.mk.injEq] at he
    obtain ⟨rfl, rfl⟩ := he
    obtain ⟨rfl, first⟩ := ih hs
    refine ⟨rfl, ?_⟩
    intro front' back' ht
    cases front' with
    | nil =>
      obtain ⟨hc, hr⟩ := List.cons.inj ht
      exact False.elim (apart back' hc hr)
    | cons c' front' =>
      have := first front' back' (List.cons.inj ht).2
      simpa using this

theorem splitAtGap?_append (front back : Text) :
    (splitAtGap? (front ++ ' ' :: ' ' :: back)).isSome = true := by
  induction front with
  | nil => simp [splitAtGap?]
  | cons c front ih =>
    rw [List.cons_append]
    unfold splitAtGap?
    split
    · contradiction
    · rfl
    · rename_i e
      rw [← (List.cons.inj e).2]
      simpa using ih

theorem splitAtGap?_eq_some_iff {t front back : Text} :
    splitAtGap? t = some (front, back) ↔ SplitsAtGap t front back := by
  constructor
  · exact splitAtGap?_sound
  · intro h
    have found := splitAtGap?_append front back
    rw [← h.1] at found
    obtain ⟨⟨f, b⟩, hs⟩ := Option.isSome_iff_exists.1 found
    obtain ⟨rfl, rfl⟩ := h.unique (splitAtGap?_sound hs)
    exact hs

/-- A text declares an id and a name: the id stands, not blank, in front of the first gap and the
name behind it, both without the blanks around them and the id in lower case. -/
def Declares (body : Text) (d : Declaration) : Prop :=
  ∃ front back, SplitsAtGap body front back ∧ Text.strip front ≠ [] ∧
    d = ⟨Text.lower (Text.strip front), Text.strip back⟩

theorem read?_eq_some_iff {body : Text} {d : Declaration} :
    read? body = some d ↔ Declares body d := by
  unfold read? Declares
  cases hs : splitAtGap? body with
  | none =>
    simp only [reduceCtorEq, false_iff, not_exists, not_and]
    intro front back h
    rw [splitAtGap?_eq_some_iff.2 h] at hs
    cases hs
  | some parts =>
    obtain ⟨front, back⟩ := parts
    have h := splitAtGap?_eq_some_iff.1 hs
    constructor
    · intro hd
      by_cases blank : Text.strip front = []
      · simp [blank, Text.lower_eq_nil_iff] at hd
      · simp only [Text.lower_eq_nil_iff, blank, if_false, Option.some.injEq] at hd
        exact ⟨front, back, h, blank, hd.symm⟩
    · rintro ⟨front', back', h', blank, rfl⟩
      obtain ⟨rfl, rfl⟩ := h.unique h'
      simp [Text.lower_eq_nil_iff, blank]

theorem Declares.unique {body : Text} {d d' : Declaration} (h : Declares body d)
    (h' : Declares body d') : d = d' :=
  Option.some.inj ((read?_eq_some_iff.2 h).symm.trans (read?_eq_some_iff.2 h'))

end Declaration

/-- How a declaring line stands: as a vendor, as a class, or behind a number of tabs. -/
inductive LineRank where
  | vendor
  | deviceClass
  | indented (tabs : Nat)
  deriving DecidableEq

/-- What a line without its line end declares. It is neither blank nor a comment. Behind its tabs
stands the text that declares; without tabs a capital C in front of that text makes it a class. -/
def LineDeclares (line : Text) (rank : LineRank) (d : Declaration) : Prop :=
  Text.strip line ≠ [] ∧ line.head? ≠ some '#' ∧
  ∃ tabs body, line = List.replicate tabs '\t' ++ body ∧ body.head? ≠ some '\t' ∧
    match rank with
    | .vendor => tabs = 0 ∧ body.head? ≠ some 'C' ∧ Declaration.Declares body d
    | .deviceClass => tabs = 0 ∧ ∃ rest, body = 'C' :: rest ∧ Declaration.Declares rest d
    | .indented n => tabs = n ∧ 0 < n ∧ Declaration.Declares body d

namespace Context

/-- What the text behind some tabs declares, and in which rank. -/
def declaredBehind? (tabs : Nat) (text : Text) : Option (LineRank × Declaration) :=
  match tabs, text with
  | 0, 'C' :: rest => (Declaration.read? rest).map fun d => (.deviceClass, d)
  | 0, text => (Declaration.read? text).map fun d => (.vendor, d)
  | n + 1, text => (Declaration.read? text).map fun d => (.indented (n + 1), d)

/-- What a line declares, and in which rank, as the reader finds it. -/
def declared? (line : Text) : Option (LineRank × Declaration) :=
  if isSilent line then none else declaredBehind? (depth line) (body line)

theorem depth_tabs (tabs : Nat) {text : Text} (h : text.head? ≠ some '\t') :
    depth (List.replicate tabs '\t' ++ text) = tabs ∧
      body (List.replicate tabs '\t' ++ text) = text := by
  have front : text.takeWhile (· == '\t') = [] ∧ text.dropWhile (· == '\t') = text := by
    cases text with
    | nil => exact ⟨rfl, rfl⟩
    | cons c rest =>
      have other : c ≠ '\t' := fun e => h (by rw [e]; rfl)
      simp [other]
  simp [depth, body, front]

theorem eq_tabs_append_body (line : Text) :
    line = List.replicate (depth line) '\t' ++ body line ∧ (body line).head? ≠ some '\t' := by
  induction line with
  | nil => exact ⟨rfl, nofun⟩
  | cons c rest ih =>
    by_cases h : c = '\t'
    · subst h
      simpa [depth, body, List.replicate_succ] using ih
    · simp [depth, body, h]

theorem declaredBehind?_eq_some_iff {tabs : Nat} {text : Text} {rank : LineRank}
    {d : Declaration} : declaredBehind? tabs text = some (rank, d) ↔
      match rank with
      | .vendor => tabs = 0 ∧ text.head? ≠ some 'C' ∧ Declaration.Declares text d
      | .deviceClass => tabs = 0 ∧ ∃ rest, text = 'C' :: rest ∧ Declaration.Declares rest d
      | .indented n => tabs = n ∧ 0 < n ∧ Declaration.Declares text d := by
  cases tabs with
  | zero =>
    by_cases hc : ∃ rest, text = 'C' :: rest
    · obtain ⟨rest, rfl⟩ := hc
      cases rank with
      | vendor => simp [declaredBehind?]
      | deviceClass => simp [declaredBehind?, Declaration.read?_eq_some_iff]
      | indented n =>
        constructor
        · intro h
          simp [declaredBehind?] at h
        · rintro ⟨rfl, pos, -⟩
          exact absurd pos (Nat.lt_irrefl 0)
    · have noClass : text.head? ≠ some 'C' := by
        intro h
        cases text with
        | nil => cases h
        | cons c rest => exact hc ⟨rest, by rw [Option.some.inj h]⟩
      have apart : ∀ rest, text = 'C' :: rest → False := fun rest h => hc ⟨rest, h⟩
      rw [declaredBehind?.eq_2 text apart]
      cases rank with
      | vendor => simp [noClass, Declaration.read?_eq_some_iff]
      | deviceClass =>
        constructor
        · intro h
          simp at h
        · rintro ⟨-, rest, h, -⟩
          exact absurd ⟨rest, h⟩ hc
      | indented n =>
        constructor
        · intro h
          simp at h
        · rintro ⟨rfl, pos, -⟩
          exact absurd pos (Nat.lt_irrefl 0)
  | succ m =>
    cases rank with
    | vendor => simp [declaredBehind?]
    | deviceClass => simp [declaredBehind?]
    | indented n =>
      simp only [declaredBehind?, Option.map_eq_some_iff, Prod.mk.injEq, LineRank.indented.injEq,
        Declaration.read?_eq_some_iff]
      constructor
      · rintro ⟨d', h, rfl, rfl⟩
        exact ⟨rfl, Nat.succ_pos m, h⟩
      · rintro ⟨rfl, -, h⟩
        exact ⟨d, h, rfl, rfl⟩

/-- The reader finds what a line declares, and finds nothing else. -/
theorem declared?_eq_some_iff {line : Text} {rank : LineRank} {d : Declaration} :
    declared? line = some (rank, d) ↔ LineDeclares line rank d := by
  have silent : isSilent line = true ↔ Text.strip line = [] ∨ line.head? = some '#' := by
    simp [isSilent]
  constructor
  · intro h
    unfold declared? at h
    split at h
    · cases h
    · rename_i spoken
      rw [silent, not_or] at spoken
      obtain ⟨hl, noTab⟩ := eq_tabs_append_body line
      exact ⟨spoken.1, spoken.2, depth line, body line, hl, noTab,
        declaredBehind?_eq_some_iff.1 h⟩
  · rintro ⟨spoken, comment, tabs, text, rfl, noTab, h⟩
    obtain ⟨hd, hb⟩ := depth_tabs tabs noTab
    have loud : ¬ isSilent (List.replicate tabs '\t' ++ text) = true := by
      rw [silent, not_or]
      exact ⟨spoken, comment⟩
    rw [declared?, if_neg loud, hd, hb]
    exact declaredBehind?_eq_some_iff.2 h

theorem declared?_eq_none_iff {line : Text} :
    declared? line = none ↔ ∀ rank d, ¬ LineDeclares line rank d := by
  constructor
  · intro h rank d hd
    rw [declared?_eq_some_iff.2 hd] at h
    cases h
  · intro h
    cases hl : declared? line with
    | none => rfl
    | some found => exact absurd (declared?_eq_some_iff.1 hl) (h found.1 found.2)

/-- The context and the entry after a line that declares `d` in a rank. -/
def respond (ctx : Context) (rank : LineRank) (d : Declaration) : Context × Option DatabaseEntry :=
  match rank, ctx.part with
  | .vendor, _ => (⟨.inVendor, some d.id, none, none, none⟩, some (.vendor d.id d.name))
  | .deviceClass, _ => (⟨.inClass, none, none, some d.id, none⟩, some (.deviceClass d.id d.name))
  | .indented 1, .inClass =>
    let id := idText ctx.deviceClass ++ d.id
    ({ ctx with subclass := some id }, some (.subclass id d.name))
  | .indented 1, .inVendor | .indented 1, .inDevice =>
    ({ ctx with part := .inDevice, device := some d.id },
      some (.device (ctx.vendor.getD []) d.id d.name))
  | .indented 2, .inDevice =>
    (ctx, some (.subsystem (Database.pairKey (idText ctx.vendor) (idText ctx.device))
      (subsystemKey d.id) d.name))
  | .indented _, _ => (ctx, none)

/-- The context and the entry after a line in which a reader finds `found`. -/
def act (ctx : Context) : Option (LineRank × Declaration) → Context × Option DatabaseEntry
  | some (rank, d) => ctx.respond rank d
  | none => (ctx, none)

theorem startSection_eq (ctx : Context) (line : Text) :
    ctx.startSection line = ctx.act (declaredBehind? 0 line) := by
  unfold startSection
  split
  · rename_i rest
    rw [declaredBehind?.eq_1]
    cases Declaration.read? rest <;> rfl
  · rename_i noClass
    rw [declaredBehind?.eq_2 line fun rest h => noClass rest h]
    cases Declaration.read? line <;> rfl

theorem declareMember_eq (ctx : Context) (text : Text) :
    ctx.declareMember text = ctx.act (declaredBehind? 1 text) := by
  rw [declaredBehind?.eq_3, declareMember]
  cases hp : ctx.part <;> cases Declaration.read? text <;> simp [act, respond, hp]

theorem declareSubsystem_eq (ctx : Context) (text : Text) :
    ctx.declareSubsystem text = ctx.act (declaredBehind? 2 text) := by
  rw [declaredBehind?.eq_3, declareSubsystem]
  cases hp : ctx.part <;> cases Declaration.read? text <;> simp [act, respond, hp]

theorem act_deeper (ctx : Context) (n : Nat) (text : Text) :
    ctx.act (declaredBehind? (n + 3) text) = (ctx, none) := by
  rw [declaredBehind?.eq_3]
  cases Declaration.read? text <;> simp [act, respond]

/-- What a line does to a context follows from what the line declares. -/
theorem advance_eq (ctx : Context) (line : Text) : ctx.advance line = ctx.act (declared? line) := by
  unfold advance declared?
  split
  · rfl
  · cases hd : depth line with
    | zero =>
      have whole := (eq_tabs_append_body line).1
      rw [hd, List.replicate_zero, List.nil_append] at whole
      rw [← whole]
      exact startSection_eq ctx line
    | succ n =>
      match n with
      | 0 => exact declareMember_eq ctx (body line)
      | 1 => exact declareSubsystem_eq ctx (body line)
      | n + 2 => exact (act_deeper ctx n (body line)).symm

theorem advance_of_silent {line : Text} (h : ∀ rank d, ¬ LineDeclares line rank d)
    (ctx : Context) : ctx.advance line = (ctx, none) := by
  rw [advance_eq, declared?_eq_none_iff.2 h]
  rfl

theorem advance_of_declares {line : Text} {rank : LineRank} {d : Declaration}
    (h : LineDeclares line rank d) (ctx : Context) : ctx.advance line = ctx.respond rank d := by
  rw [advance_eq, declared?_eq_some_iff.2 h]
  rfl

end Context

theorem LineDeclares.unique {line : Text} {rank rank' : LineRank} {d d' : Declaration}
    (h : LineDeclares line rank d) (h' : LineDeclares line rank' d') : rank = rank' ∧ d = d' := by
  have same := (Context.declared?_eq_some_iff.2 h).symm.trans (Context.declared?_eq_some_iff.2 h')
  simpa using same

end PciInventory
