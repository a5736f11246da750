import Mathlib.Tactic.SplitIfs
import PciInventory.Payload
import PciInventory.Proofs.Text.Hexadecimal
import PciInventory.Terminal.Printing

/-!
# Printed JSON on a terminal

What JSON is printed as holds visible ASCII characters, spaces and line feeds only, whatever the
texts in it hold and whatever their characters mean to a terminal. So a line of it is printed as it
is: there is no colour sequence to leave out and no carriage return to join to a line feed.
-/
namespace PciInventory

namespace Text

/-- A text of visible ASCII characters, spaces and line feeds. -/
def IsVisible (t : Text) : Prop := ∀ c ∈ t, c = '\n' ∨ 0x20 ≤ c.toNat ∧ c.toNat < 0x7F

instance (t : Text) : Decidable (IsVisible t) := List.decidableBAll _ t

theorem isVisible_nil : IsVisible [] := by simp [IsVisible]

theorem isVisible_cons {c : Char} {t : Text} :
    IsVisible (c :: t) ↔ IsVisible [c] ∧ IsVisible t := by
  simp [IsVisible]

theorem IsVisible.append {a b : Text} (ha : IsVisible a) (hb : IsVisible b) : IsVisible (a ++ b) :=
  List.forall_mem_append.2 ⟨ha, hb⟩

theorem isVisible_replicate {n : Nat} {c : Char} (h : IsVisible [c]) :
    IsVisible (List.replicate n c) := by
  intro d hd
  rw [List.eq_of_mem_replicate hd]
  exact h c (List.mem_singleton_self c)

theorem IsVisible.mono {a b : Text} (h : IsVisible b) (sub : ∀ c ∈ a, c ∈ b) : IsVisible a :=
  fun c hc => h c (sub c hc)

theorem isVisible_toDigits {b : Nat} (lower : 1 < b) (upper : b ≤ 16) (n : Nat) :
    IsVisible (Nat.toDigits b n) := by
  have digit : ∀ d < 16, IsVisible [Nat.digitChar d] := by decide
  intro c hc
  obtain ⟨d, hd, rfl⟩ := mem_toDigits lower hc
  exact digit d (by omega) _ (List.mem_singleton_self _)

theorem isVisible_ofNat (n : Nat) : IsVisible (ofNat n) :=
  isVisible_toDigits (by decide) (by decide) n

theorem isVisible_ofInt (n : Int) : IsVisible (ofInt n) := by
  cases n with
  | ofNat n => exact isVisible_ofNat n
  | negSucc n => exact isVisible_cons.2 ⟨by decide, isVisible_ofNat (n + 1)⟩

theorem shortenLineEnds_eq_self {t : Text} (h : '\r' ∉ t) : shortenLineEnds t = t := by
  have step (read : Text) (none : '\r' ∉ read) : t.foldl (fun read c =>
      if c = '\n' && read.head? = some '\r' then '\n' :: read.tail else c :: read) read =
        t.reverse ++ read := by
    induction t generalizing read with
    | nil => rfl
    | cons c rest ih =>
      have other : '\r' ∉ rest := fun found => h (List.mem_cons_of_mem c found)
      have here : '\r' ∉ c :: read := by
        intro found
        rcases List.mem_cons.1 found with rfl | found
        · exact h List.mem_cons_self
        · exact none found
      have other_end : read.head? ≠ some '\r' := fun found => none (List.mem_of_head? found)
      rw [List.foldl_cons, if_neg (by simp [other_end]), ih other (c :: read) here]
      simp
  rw [shortenLineEnds, step [] List.not_mem_nil, List.append_nil, List.reverse_reverse]

end Text

open Text

namespace Layout

theorem isVisible_significant {t : Text} (h : IsVisible t) : IsVisible (significant t) := by
  cases t with
  | nil => exact isVisible_nil
  | cons d rest =>
    obtain ⟨hd, hr⟩ := isVisible_cons.1 h
    exact isVisible_cons.2 ⟨hd, hr.mono fun c hc => by
      simp only [trimEndBy, List.mem_reverse] at hc
      simpa using (List.dropWhile_sublist _).subset hc⟩

theorem isVisible_exponentText (e : Int) : IsVisible (exponentText e) := by
  unfold exponentText
  refine isVisible_cons.2 ⟨by decide, isVisible_cons.2 ⟨?_, ?_⟩⟩
  · split <;> decide
  · exact (isVisible_replicate (by decide)).append (isVisible_ofNat _)

theorem isVisible_pointed {pointZero : Bool} {whole fraction : Text} (hw : IsVisible whole)
    (hf : IsVisible fraction) : IsVisible (pointed pointZero whole fraction) := by
  unfold pointed
  split
  · split
    · exact hw.append (by decide)
    · exact hw
  · exact hw.append (isVisible_cons.2 ⟨by decide, hf⟩)

theorem isVisible_place (layout : Layout) {digits : Text} (top : Int) (h : IsVisible digits) :
    IsVisible (layout.place digits top) := by
  have front (n : Nat) : IsVisible (digits.take n) := h.mono fun c => List.mem_of_mem_take
  have back (n : Nat) : IsVisible (digits.drop n) := h.mono fun c => List.mem_of_mem_drop
  have zeros (n : Nat) : IsVisible (List.replicate n '0') := isVisible_replicate (by decide)
  unfold place
  split
  · split
    · exact isVisible_pointed ((front _).append (zeros _)) (back _)
    · exact isVisible_pointed (by decide) ((zeros _).append h)
  · exact (isVisible_pointed (front _) (back _)).append (isVisible_exponentText _)

theorem isVisible_magnitude (layout : Layout) (m : Nat) (e : Int) :
    IsVisible (layout.magnitude m e) := by
  unfold magnitude
  split
  · exact isVisible_place layout 0 (by decide)
  · exact isVisible_place layout _ (isVisible_significant (isVisible_ofNat _))

theorem isVisible_write (layout : Layout) (x : Binary64) : IsVisible (layout.write x) := by
  have sign (negative : Bool) : IsVisible (if negative then ['-'] else []) := by
    cases negative <;> decide
  cases x with
  | finite negative m e => exact (sign negative).append (isVisible_magnitude layout m e)
  | infinite negative => exact (sign negative).append (by decide)
  | notANumber => exact (by decide : IsVisible "nan".toList)

end Layout

namespace Json

/-- A value of whose numbers something holds. -/
inductive EachNumber (P : Text → Prop) : Json → Prop where
  | null : EachNumber P .null
  | bool (truth : Bool) : EachNumber P (.bool truth)
  | number {token : Text} (holds : P token) : EachNumber P (.number token)
  | text (content : Text) : EachNumber P (.text content)
  | array {items : List Json} (each : ∀ item ∈ items, EachNumber P item) :
      EachNumber P (.array items)
  | object {members : List (Text × Json)} (each : ∀ m ∈ members, EachNumber P m.2) :
      EachNumber P (.object members)

abbrev HasVisibleNumbers : Json → Prop := EachNumber IsVisible

theorem isVisible_unitEscapes (n : Nat) : IsVisible (unitEscapes n) := by
  have unit (u : Nat) : IsVisible (unitEscape u) := by
    refine isVisible_cons.2 ⟨by decide, isVisible_cons.2 ⟨by decide, .append ?_ ?_⟩⟩
    · exact isVisible_replicate (by decide)
    · exact isVisible_toDigits (by decide) (by decide) u
  unfold unitEscapes
  split
  · exact unit n
  · exact (unit _).append (unit _)

theorem isVisible_escaped (c : Char) : IsVisible (escaped c) := by
  unfold escaped
  split_ifs with _ _ _ _ _ _ _ visible <;> try decide
  · intro d hd
    rw [List.mem_singleton.1 hd]
    exact .inr visible
  · exact isVisible_unitEscapes c.toNat

theorem isVisible_printText (t : Text) : IsVisible (printText t) := by
  refine .append (isVisible_cons.2 ⟨by decide, ?_⟩) (by decide)
  intro d hd
  obtain ⟨c, -, hd⟩ := List.mem_flatMap.1 hd
  exact isVisible_escaped c d hd

theorem isVisible_newLine (depth : Nat) : IsVisible (Spacing.newLine depth) :=
  isVisible_cons.2 ⟨by decide, isVisible_replicate (by decide)⟩

/-- A spacing of visible texts. -/
structure Spacing.IsVisible (s : Spacing) : Prop where
  afterOpening : ∀ depth, Text.IsVisible (s.afterOpening depth)
  afterComma : ∀ depth, Text.IsVisible (s.afterComma depth)
  beforeClosing : ∀ depth, Text.IsVisible (s.beforeClosing depth)

theorem Spacing.isVisible_compact : Spacing.compact.IsVisible :=
  ⟨fun _ => Text.isVisible_nil, fun _ => by change Text.IsVisible [' ']; decide,
    fun _ => Text.isVisible_nil⟩

theorem Spacing.isVisible_indented : Spacing.indented.IsVisible :=
  ⟨isVisible_newLine, isVisible_newLine, isVisible_newLine⟩

mutual

/-- What a value is printed as is visible if its numbers are. -/
theorem isVisible_print {s : Spacing} (hs : s.IsVisible) :
    ∀ (depth : Nat) (j : Json), j.HasVisibleNumbers → IsVisible (print s depth j)
  | _, .null, _ => by simp only [print]; decide
  | _, .bool true, _ => by simp only [print]; decide
  | _, .bool false, _ => by simp only [print]; decide
  | _, .number _, .number visible => by simpa only [print] using visible
  | _, .text content, _ => by simpa only [print] using isVisible_printText content
  | _, .array [], _ => by simp only [print]; decide
  | depth, .array (item :: items), .array each => by
    rw [print]
    have first := isVisible_print hs (depth + 1) item (each item List.mem_cons_self)
    have others := isVisible_printItems hs (depth + 1) items fun i hi =>
      each i (List.mem_cons_of_mem item hi)
    have opening := isVisible_cons.2 ⟨(by decide : IsVisible ['[']), hs.afterOpening (depth + 1)⟩
    exact (((opening.append first).append others).append (hs.beforeClosing _)).append (by decide)
  | _, .object [], _ => by simp only [print]; decide
  | depth, .object ((name, value) :: members), .object each => by
    rw [print]
    have first := isVisible_print hs (depth + 1) value (each (name, value) List.mem_cons_self)
    have others := isVisible_printMembers hs (depth + 1) members fun m hm =>
      each m (List.mem_cons_of_mem _ hm)
    have opening := isVisible_cons.2 ⟨(by decide : IsVisible ['\x7b']), hs.afterOpening (depth + 1)⟩
    have colon : IsVisible [':', ' '] := by decide
    have named := (opening.append (isVisible_printText name)).append colon
    exact (((named.append first).append others).append (hs.beforeClosing _)).append (by decide)

theorem isVisible_printItems {s : Spacing} (hs : s.IsVisible) :
    ∀ (depth : Nat) (items : List Json), (∀ item ∈ items, item.HasVisibleNumbers) →
      IsVisible (printItems s depth items)
  | _, [], _ => by rw [printItems]; exact isVisible_nil
  | depth, item :: items, each => by
    rw [printItems]
    have first := isVisible_print hs depth item (each item List.mem_cons_self)
    have others := isVisible_printItems hs depth items fun i hi =>
      each i (List.mem_cons_of_mem item hi)
    have comma := isVisible_cons.2 ⟨(by decide : IsVisible [',']), hs.afterComma depth⟩
    exact (comma.append first).append others

theorem isVisible_printMembers {s : Spacing} (hs : s.IsVisible) :
    ∀ (depth : Nat) (members : List (Text × Json)), (∀ m ∈ members, m.2.HasVisibleNumbers) →
      IsVisible (printMembers s depth members)
  | _, [], _ => by rw [printMembers]; exact isVisible_nil
  | depth, (name, value) :: members, each => by
    rw [printMembers]
    have first := isVisible_print hs depth value (each (name, value) List.mem_cons_self)
    have others := isVisible_printMembers hs depth members fun m hm =>
      each m (List.mem_cons_of_mem _ hm)
    have comma := isVisible_cons.2 ⟨(by decide : IsVisible [',']), hs.afterComma depth⟩
    have colon : IsVisible [':', ' '] := by decide
    have named := (comma.append (isVisible_printText name)).append colon
    exact (named.append first).append others

end

end Json

namespace Payload

theorem isVisible_numberToken (x : Binary64) : IsVisible (numberToken x) := by
  cases x with
  | finite negative m e => exact Layout.isVisible_write .full (.finite negative m e)
  | infinite negative => cases negative <;> decide
  | notANumber => decide

/-- The numbers in some observations are the tokens of their values. -/
theorem eachNumber_ofObservations {P : Text → Prop} {os : List Observation}
    (h : ∀ o ∈ os, P (numberToken o.value)) : (ofObservations os).EachNumber P := by
  have labels (ls : Labels) : (ofLabels ls).EachNumber P := by
    refine .object fun m hm => ?_
    obtain ⟨row, -, rfl⟩ := List.mem_map.1 hm
    exact .text row.2
  refine .array fun item hi => ?_
  obtain ⟨o, ho, rfl⟩ := List.mem_map.1 hi
  refine .object fun m hm => ?_
  simp only [List.mem_cons, List.not_mem_nil, or_false] at hm
  rcases hm with rfl | rfl | rfl
  · exact .text o.name
  · exact labels o.labels
  · exact .number (h o ho)

theorem hasVisibleNumbers_ofObservations (os : List Observation) :
    (ofObservations os).HasVisibleNumbers :=
  eachNumber_ofObservations fun o _ => isVisible_numberToken o.value

theorem isVisible_text (os : List Observation) : IsVisible (text os) :=
  Json.isVisible_print Json.Spacing.isVisible_indented 0 _ (hasVisibleNumbers_ofObservations os)

end Payload

namespace Detail

mutual

theorem hasVisibleNumbers_toJson : ∀ d : Detail, d.toJson.HasVisibleNumbers
  | .absent => .null
  | .truth value => .bool value
  | .whole n => .number (isVisible_ofInt n)
  | .text t => .text t
  | .list items => .array (hasVisibleNumbers_itemsToJson items)
  | .record members => .object (hasVisibleNumbers_membersToJson members)

theorem hasVisibleNumbers_itemsToJson :
    ∀ (items : List Detail), ∀ j ∈ itemsToJson items, j.HasVisibleNumbers
  | [] => by simp [itemsToJson]
  | item :: items => by
    intro j hj
    rcases List.mem_cons.1 hj with rfl | hj
    · exact hasVisibleNumbers_toJson item
    · exact hasVisibleNumbers_itemsToJson items j hj

theorem hasVisibleNumbers_membersToJson :
    ∀ (members : List (Text × Detail)), ∀ m ∈ membersToJson members, m.2.HasVisibleNumbers
  | [] => by simp [membersToJson]
  | (name, value) :: members => by
    intro m hm
    rcases List.mem_cons.1 hm with rfl | hm
    · exact hasVisibleNumbers_toJson value
    · exact hasVisibleNumbers_membersToJson members m hm

end

end Detail

/-- The JSON form of a report on one line is visible. -/
theorem Report.isVisible_compact_toJson (r : Report) : IsVisible r.toJson.compact := by
  refine Json.isVisible_print Json.Spacing.isVisible_compact 0 _ (.object fun m hm => ?_)
  simp only [List.mem_cons, List.not_mem_nil, or_false] at hm
  rcases hm with rfl | rfl | rfl
  · exact .text r.kind.name
  · exact .text r.message
  · exact .object (Detail.hasVisibleNumbers_membersToJson r.details.rows)

namespace Terminal

theorem line_of_isVisible {t : Text} (h : IsVisible t) : line t = t ++ ['\n'] := by
  have no_escape : t.contains '\x1b' = false := by
    rw [List.contains_eq_mem, decide_eq_false_iff_not]
    intro found
    exact absurd (h _ found) (by decide)
  have no_return : '\r' ∉ t ++ ['\n'] := by
    intro found
    rcases List.mem_append.1 found with found | found
    · exact absurd (h _ found) (by decide)
    · exact absurd found (by decide)
  rw [line, withoutColours, no_escape, if_neg Bool.false_ne_true,
    shortenLineEnds_eq_self no_return]

end Terminal

end PciInventory
