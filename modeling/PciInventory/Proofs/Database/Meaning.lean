import Mathlib.Data.List.Induction
import PciInventory.Proofs.Database.Declaring
import PciInventory.Proofs.Database.Entries

/-!
# What the lines of a database mean

The meaning of a file is said by looking back from each line, with no state: an indented line
belongs to the nearest line before it that starts a vendor or a class, a subsystem also to the
nearest device since. A name is the one on the last line that says something of its place. The
reader goes forward once and keeps a context; the main statement is that its tables are the ones so
described.

The order of the rows is not part of the meaning.
-/
namespace PciInventory

/-- Of the lines `before` another, `line` is the nearest with a property; `between` are the lines
behind it. -/
def Nearest (P : Text → Prop) (before : List Text) (line : Text) (between : List Text) : Prop :=
  (∃ far, before = far ++ line :: between) ∧ P line ∧ ∀ l ∈ between, ¬ P l

/-- A line that starts a vendor or a class. -/
def StartsSection (line : Text) : Prop :=
  ∃ d, LineDeclares line .vendor d ∨ LineDeclares line .deviceClass d

/-- A line behind one tab that declares something. -/
def DeclaresMember (line : Text) : Prop := ∃ d, LineDeclares line (.indented 1) d

/-- The entry that a line adds behind the lines `before`. -/
inductive Adds (before : List Text) (line : Text) : DatabaseEntry → Prop where
  | vendor {id name : Text} (here : LineDeclares line .vendor ⟨id, name⟩) :
      Adds before line (.vendor id name)
  | deviceClass {id name : Text} (here : LineDeclares line .deviceClass ⟨id, name⟩) :
      Adds before line (.deviceClass id name)
  | device {owner v vname id name : Text} {between : List Text}
      (own : Nearest StartsSection before owner between)
      (above : LineDeclares owner .vendor ⟨v, vname⟩)
      (here : LineDeclares line (.indented 1) ⟨id, name⟩) :
      Adds before line (.device v id name)
  | subclass {owner c cname id name : Text} {between : List Text}
      (own : Nearest StartsSection before owner between)
      (above : LineDeclares owner .deviceClass ⟨c, cname⟩)
      (here : LineDeclares line (.indented 1) ⟨id, name⟩) :
      Adds before line (.subclass (c ++ id) name)
  | subsystem {owner v vname device d dname id name : Text} {between since : List Text}
      (own : Nearest StartsSection before owner between)
      (above : LineDeclares owner .vendor ⟨v, vname⟩)
      (member : Nearest DeclaresMember between device since)
      (of : LineDeclares device (.indented 1) ⟨d, dname⟩)
      (here : LineDeclares line (.indented 2) ⟨id, name⟩) :
      Adds before line (.subsystem (v ++ ':' :: d) (Text.joinWith [':'] (Text.words id)) name)

/-- The last of some lines that says something of a place says this name. -/
def LastAdded (lines : List Text) (p : Database.Place) (name : Text) : Prop :=
  ∃ before line after e, lines = before ++ line :: after ∧
    Adds before line e ∧ e.place = p ∧ e.name = name ∧
    ∀ mid later rest e', after = mid ++ later :: rest →
      Adds (before ++ line :: mid) later e' → e'.place ≠ p

section Nearest
variable {P : Text → Prop} {before between between' : List Text} {line l l' : Text}

theorem Nearest.unique (h : Nearest P before l between) (h' : Nearest P before l' between') :
    l = l' ∧ between = between' := by
  obtain ⟨⟨far, rfl⟩, hl, hb⟩ := h
  obtain ⟨⟨far', he⟩, hl', hb'⟩ := h'
  rcases List.append_eq_append_iff.1 he with ⟨as, -, hr⟩ | ⟨as, -, hr⟩
  · cases as with
    | nil => simpa using hr
    | cons a as =>
      obtain ⟨-, rfl⟩ := List.cons.inj hr
      exact absurd hl' (hb l' (by simp))
  · cases as with
    | nil => simpa [eq_comm] using hr
    | cons a as =>
      obtain ⟨-, rfl⟩ := List.cons.inj hr
      exact absurd hl (hb' l (by simp))

theorem Nearest.mem (h : Nearest P before l between) : l ∈ before := by
  obtain ⟨⟨far, rfl⟩, -, -⟩ := h
  simp

theorem Nearest.here (before : List Text) (h : P line) : Nearest P (before ++ [line]) line [] :=
  ⟨⟨before, rfl⟩, h, fun _ h => absurd h List.not_mem_nil⟩

theorem Nearest.pass (h : Nearest P before l between) (other : ¬ P line) :
    Nearest P (before ++ [line]) l (between ++ [line]) := by
  obtain ⟨⟨far, rfl⟩, hl, hb⟩ := h
  refine ⟨⟨far, by simp⟩, hl, ?_⟩
  intro x hx
  rcases List.mem_append.1 hx with hx | hx
  · exact hb x hx
  · rw [List.mem_singleton.1 hx]
    exact other

end Nearest

/-- A context is the one that the lines before it leave, said by looking back. -/
inductive Context.Situated (before : List Text) : Context → Prop where
  | outside (nothing : ∀ l ∈ before, ¬ StartsSection l) : Situated before .initial
  | inClass {owner c cname : Text} {between : List Text} {sub : Option Text}
      (own : Nearest StartsSection before owner between)
      (above : LineDeclares owner .deviceClass ⟨c, cname⟩) :
      Situated before ⟨.inClass, none, none, some c, sub⟩
  | inVendor {owner v vname : Text} {between : List Text}
      (own : Nearest StartsSection before owner between)
      (above : LineDeclares owner .vendor ⟨v, vname⟩)
      (alone : ∀ l ∈ between, ¬ DeclaresMember l) :
      Situated before ⟨.inVendor, some v, none, none, none⟩
  | inDevice {owner v vname device d dname : Text} {between since : List Text}
      (own : Nearest StartsSection before owner between)
      (above : LineDeclares owner .vendor ⟨v, vname⟩)
      (member : Nearest DeclaresMember between device since)
      (of : LineDeclares device (.indented 1) ⟨d, dname⟩) :
      Situated before ⟨.inDevice, some v, some d, none, none⟩

namespace Context
variable {before : List Text} {line : Text} {ctx : Context}

/-- A line that neither starts a section nor declares a member leaves a context where it is. -/
theorem Situated.pass (h : Situated before ctx) (noStart : ¬ StartsSection line)
    (noMember : ¬ DeclaresMember line) : Situated (before ++ [line]) ctx := by
  have none_of {Q : Text → Prop} {ls : List Text} (hs : ∀ l ∈ ls, ¬ Q l) (hq : ¬ Q line) :
      ∀ l ∈ ls ++ [line], ¬ Q l := by
    intro l hl
    rcases List.mem_append.1 hl with hl | hl
    · exact hs l hl
    · rw [List.mem_singleton.1 hl]
      exact hq
  cases h with
  | outside nothing => exact .outside (none_of nothing noStart)
  | inClass own above => exact .inClass (own.pass noStart) above
  | inVendor own above alone => exact .inVendor (own.pass noStart) above (none_of alone noMember)
  | inDevice own above member of =>
    exact .inDevice (own.pass noStart) above (member.pass noMember) of

theorem not_startsSection_of_indented {n : Nat} {d : Declaration}
    (h : LineDeclares line (.indented n) d) : ¬ StartsSection line := by
  rintro ⟨d', hv | hc⟩
  · cases (h.unique hv).1
  · cases (h.unique hc).1

theorem not_declaresMember_of_rank {rank : LineRank} {d : Declaration}
    (h : LineDeclares line rank d) (other : rank ≠ .indented 1) : ¬ DeclaresMember line := by
  rintro ⟨d', hm⟩
  exact other (h.unique hm).1

/-- A line behind one tab belongs to the section that it stands in. -/
theorem Situated.member {d : Declaration} (h : Situated before ctx)
    (here : LineDeclares line (.indented 1) d) :
    Situated (before ++ [line]) (ctx.respond (.indented 1) d).1 := by
  have noStart := not_startsSection_of_indented here
  cases h with
  | outside nothing =>
    refine .outside ?_
    intro l hl
    rcases List.mem_append.1 hl with hl | hl
    · exact nothing l hl
    · rw [List.mem_singleton.1 hl]
      exact noStart
  | inClass own above => exact .inClass (own.pass noStart) above
  | inVendor own above alone =>
    exact .inDevice (own.pass noStart) above (.here _ ⟨d, here⟩) here
  | inDevice own above member of =>
    exact .inDevice (own.pass noStart) above (.here _ ⟨d, here⟩) here

theorem Situated.advance (h : Situated before ctx) (line : Text) :
    Situated (before ++ [line]) (ctx.advance line).1 := by
  cases found : declared? line with
  | none =>
    have silent := declared?_eq_none_iff.1 found
    rw [advance_of_silent silent]
    refine h.pass ?_ ?_
    · rintro ⟨d, hv | hc⟩
      · exact silent _ _ hv
      · exact silent _ _ hc
    · rintro ⟨d, hm⟩
      exact silent _ _ hm
  | some what =>
    obtain ⟨rank, d⟩ := what
    have here := declared?_eq_some_iff.1 found
    rw [advance_of_declares here]
    cases rank with
    | vendor =>
      exact .inVendor (.here before ⟨d, .inl here⟩) here fun _ h => absurd h List.not_mem_nil
    | deviceClass => exact .inClass (.here before ⟨d, .inr here⟩) here
    | indented n =>
      by_cases one : n = 1
      · subst one
        exact h.member here
      · have still : (ctx.respond (.indented n) d).1 = ctx := by
          unfold respond
          split <;> simp_all
        rw [still]
        exact h.pass (not_startsSection_of_indented here)
          (not_declaresMember_of_rank here (by simpa using one))

theorem situated_after (before : List Text) : Situated before (Context.initial.after before) := by
  -- From the end: looking back, nothing in front of the last line depends on it.
  induction before using List.reverseRecOn with
  | nil => exact .outside fun _ h => absurd h List.not_mem_nil
  | append_singleton before line ih =>
    rw [after_append]
    exact ih.advance line

theorem Situated.vendor_of {owner v vname : Text} {between : List Text} (h : Situated before ctx)
    (own : Nearest StartsSection before owner between)
    (above : LineDeclares owner .vendor ⟨v, vname⟩) :
    (ctx.part = .inVendor ∨ ctx.part = .inDevice) ∧ ctx.vendor = some v := by
  cases h with
  | outside nothing => exact absurd own.2.1 (nothing owner own.mem)
  | inClass own' above' =>
    obtain ⟨rfl, -⟩ := own.unique own'
    cases (above.unique above').1
  | inVendor own' above' alone =>
    obtain ⟨rfl, -⟩ := own.unique own'
    cases (above.unique above').2
    exact ⟨.inl rfl, rfl⟩
  | inDevice own' above' member of =>
    obtain ⟨rfl, -⟩ := own.unique own'
    cases (above.unique above').2
    exact ⟨.inr rfl, rfl⟩

theorem Situated.class_of {owner c cname : Text} {between : List Text} (h : Situated before ctx)
    (own : Nearest StartsSection before owner between)
    (above : LineDeclares owner .deviceClass ⟨c, cname⟩) :
    ctx.part = .inClass ∧ ctx.deviceClass = some c := by
  cases h with
  | outside nothing => exact absurd own.2.1 (nothing owner own.mem)
  | inClass own' above' =>
    obtain ⟨rfl, -⟩ := own.unique own'
    cases (above.unique above').2
    exact ⟨rfl, rfl⟩
  | inVendor own' above' alone =>
    obtain ⟨rfl, -⟩ := own.unique own'
    cases (above.unique above').1
  | inDevice own' above' member of =>
    obtain ⟨rfl, -⟩ := own.unique own'
    cases (above.unique above').1

theorem Situated.device_of {owner v vname device d dname : Text} {between since : List Text}
    (h : Situated before ctx) (own : Nearest StartsSection before owner between)
    (above : LineDeclares owner .vendor ⟨v, vname⟩)
    (member : Nearest DeclaresMember between device since)
    (of : LineDeclares device (.indented 1) ⟨d, dname⟩) :
    ctx.part = .inDevice ∧ ctx.vendor = some v ∧ ctx.device = some d := by
  cases h with
  | outside nothing => exact absurd own.2.1 (nothing owner own.mem)
  | inClass own' above' =>
    obtain ⟨rfl, -⟩ := own.unique own'
    cases (above.unique above').1
  | inVendor own' above' alone =>
    obtain ⟨rfl, rfl⟩ := own.unique own'
    exact absurd member.2.1 (alone device member.mem)
  | inDevice own' above' member' of' =>
    obtain ⟨rfl, rfl⟩ := own.unique own'
    obtain ⟨rfl, -⟩ := member.unique member'
    cases (above.unique above').2
    cases (of.unique of').2
    exact ⟨rfl, rfl, rfl⟩

/-- What an indented line adds in its context, it adds by looking back. -/
theorem Situated.adds_of_indented {n : Nat} {d : Declaration} {e : DatabaseEntry}
    (h : Situated before ctx) (here : LineDeclares line (.indented n) d)
    (he : (ctx.respond (.indented n) d).2 = some e) : Adds before line e := by
  match n, here, he with
  | 0, _, he => simp [respond] at he
  | 1, here, he =>
    cases h with
    | outside nothing => simp [respond, initial] at he
    | inClass own above =>
      cases he
      exact .subclass own above here
    | inVendor own above alone =>
      cases he
      exact .device own above here
    | inDevice own above member of =>
      cases he
      exact .device own above here
  | 2, here, he =>
    cases h with
    | outside nothing => simp [respond, initial] at he
    | inClass own above => simp [respond] at he
    | inVendor own above alone => simp [respond] at he
    | inDevice own above member of =>
      cases he
      exact .subsystem own above member of here
  | n + 3, _, he => simp [respond] at he

/-- The entry that the reader adds is the one that the line adds by looking back. -/
theorem Situated.entry_iff {e : DatabaseEntry} (h : Situated before ctx) :
    (ctx.advance line).2 = some e ↔ Adds before line e := by
  constructor
  · intro he
    cases found : declared? line with
    | none => simp [advance_of_silent (declared?_eq_none_iff.1 found)] at he
    | some what =>
      obtain ⟨rank, d⟩ := what
      have here := declared?_eq_some_iff.1 found
      rw [advance_of_declares here] at he
      cases rank with
      | vendor =>
        cases he
        exact .vendor here
      | deviceClass =>
        cases he
        exact .deviceClass here
      | indented n => exact h.adds_of_indented here he
  · intro added
    cases added with
    | vendor here => rw [advance_of_declares here]; rfl
    | deviceClass here => rw [advance_of_declares here]; rfl
    | device own above here =>
      rw [advance_of_declares here]
      obtain ⟨part | part, owner⟩ := h.vendor_of own above <;> simp [respond, part, owner]
    | subclass own above here =>
      rw [advance_of_declares here]
      obtain ⟨part, owner⟩ := h.class_of own above
      simp [respond, part, owner, idText]
    | subsystem own above member of here =>
      rw [advance_of_declares here]
      obtain ⟨part, owner, device⟩ := h.device_of own above member of
      simp [respond, part, owner, device, idText, Database.pairKey, subsystemKey]

end Context

theorem lastAdded_append_singleton {lines : List Text} {line : Text} {p : Database.Place}
    {name : Text} : LastAdded (lines ++ [line]) p name ↔
      (∃ e, Adds lines line e ∧ e.place = p ∧ e.name = name) ∨
      ((∀ e, Adds lines line e → e.place ≠ p) ∧ LastAdded lines p name) := by
  constructor
  · rintro ⟨before, l, after, e, split, added, hp, hn, last⟩
    rcases List.eq_nil_or_concat after with rfl | ⟨after, x, rfl⟩
    · obtain ⟨rfl, he⟩ := List.append_inj' split rfl
      cases he
      exact .inl ⟨e, added, hp, hn⟩
    · rw [List.concat_eq_append, ← List.cons_append, ← List.append_assoc] at split
      obtain ⟨rfl, he⟩ := List.append_inj' split rfl
      cases he
      refine .inr ⟨?_, before, l, after, e, rfl, added, hp, hn, ?_⟩
      · intro e' added'
        exact last after line [] e' (by simp) added'
      · intro mid later rest e' he
        exact last mid later (rest ++ [line]) e' (by simp [he])
  · rintro (⟨e, added, hp, hn⟩ | ⟨other, before, l, after, e, rfl, added, hp, hn, last⟩)
    · exact ⟨lines, line, [], e, rfl, added, hp, hn, fun mid later rest e' h => by simp at h⟩
    · refine ⟨before, l, after ++ [line], e, by simp, added, hp, hn, ?_⟩
      intro mid later rest e' split added'
      rcases List.eq_nil_or_concat rest with rfl | ⟨rest, x, rfl⟩
      · obtain ⟨rfl, he⟩ := List.append_inj' split rfl
        cases he
        exact other e' added'
      · rw [List.concat_eq_append, ← List.cons_append, ← List.append_assoc] at split
        obtain ⟨rfl, -⟩ := List.append_inj' split rfl
        exact last mid later rest e' rfl added'

namespace Database

/-- The entries that lines add leave at each place the name that is last said of it. -/
theorem name?_insertAll_entries {db : Database} {p : Place} (fresh : db.name? p = none)
    (lines : List Text) (name : Text) :
    (db.insertAll (Context.initial.entries lines)).name? p = some name ↔
      LastAdded lines p name := by
  induction lines using List.reverseRecOn with
  | nil =>
    constructor
    · intro h
      rw [Context.entries_nil, insertAll, List.foldl_nil, fresh] at h
      cases h
    · rintro ⟨before, line, after, e, split, -⟩
      simp at split
  | append_singleton lines line ih =>
    rw [lastAdded_append_singleton, ← ih, Context.entries_append, insertAll_append]
    have step {e : DatabaseEntry} :
        ((Context.initial.after lines).advance line).2 = some e ↔ Adds lines line e :=
      (Context.situated_after lines).entry_iff
    rw [Context.entries_cons, Context.entries_nil, List.append_nil]
    cases h : ((Context.initial.after lines).advance line).2 with
    | none =>
      have nothing : ∀ e, ¬ Adds lines line e := by
        intro e added
        cases h.symm.trans (step.2 added)
      simp [insertAll, nothing]
    | some e =>
      have only : ∀ e', Adds lines line e' ↔ e = e' := by
        intro e'
        rw [← step, h, Option.some.injEq]
      have one (db : Database) : db.insertAll (some e).toList = db.insert e := rfl
      rw [one, name?_insert]
      simp only [only, exists_eq_left', forall_eq']
      by_cases hp : e.place = p
      · simp [hp]
      · simp [hp]

theorem name?_ofLines_iff {lines : List Text} {source : Option Text} {p : Place} {name : Text} :
    (ofLines lines source).name? p = some name ↔
      LastAdded (lines.map Text.dropLineEnd) p name := by
  rw [ofLines_eq_insertAll]
  exact name?_insertAll_entries (name?_empty source p) _ name

/-- The tables of a database are the ones that its lines mean. -/
theorem ofLines_means (lines : List Text) (source : Option Text) :
    let db := ofLines lines source
    let said := LastAdded (lines.map Text.dropLineEnd)
    db.vendors.Tabulates (fun id => said (.vendor id)) ∧
    TabulatesPairs db.devices (fun vendor id => said (.device vendor id)) ∧
    TabulatesPairs db.subsystems (fun device pair => said (.subsystem device pair)) ∧
    db.classes.Tabulates (fun id => said (.deviceClass id)) ∧
    db.subclasses.Tabulates (fun id => said (.subclass id)) ∧
    db.source = source := by
  have regular := isRegular_ofLines lines source
  have name (p : Place) (n : Text) : (ofLines lines source).name? p = some n ↔
      LastAdded (lines.map Text.dropLineEnd) p n := by
    rw [ofLines_eq_insertAll]
    exact name?_insertAll_entries (name?_empty source p) _ n
  refine ⟨⟨regular.vendors, fun id n => name (.vendor id) n⟩,
    ⟨regular.devices, fun vendor id n => name (.device vendor id) n⟩,
    ⟨regular.subsystems, fun device pair n => name (.subsystem device pair) n⟩,
    ⟨regular.classes, fun id n => name (.deviceClass id) n⟩,
    ⟨regular.subclasses, fun id n => name (.subclass id) n⟩, ?_⟩
  rw [ofLines_eq_insertAll, source_insertAll]

end Database

end PciInventory
