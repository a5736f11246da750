import PciInventory.Proofs.Database.Meaning
import PciInventory.Proofs.Table.Overlay

/-!
# Databases laid over databases

A line that starts a vendor or a class leaves nothing of the context before it. So lines in which
nothing is declared behind tabs before such a line are read behind other lines as they are read
alone, and what comes of both is the one database laid over the other: an entry of the upper one
wins where both have one, tables of tables are laid over each other key by key, and nothing else
changes.

What the lines in front are does not matter.
-/
namespace PciInventory

namespace Database

/-- A table of tables over another, key by key. -/
def overlayNested (s t : Table Text (Table Text Text)) : Table Text (Table Text Text) :=
  Table.overlayWith (fun below above => (below.getD .empty).overlay above) s t

/-- A database over another. -/
def overlay (db upper : Database) : Database where
  vendors := db.vendors.overlay upper.vendors
  devices := overlayNested db.devices upper.devices
  subsystems := overlayNested db.subsystems upper.subsystems
  classes := db.classes.overlay upper.classes
  subclasses := db.subclasses.overlay upper.subclasses
  source := db.source

section Nested
variable {s t : Table Text (Table Text Text)}

theorem IsRegularNested.inner (h : IsRegularNested t) (outer : Text) :
    ((t.get? outer).getD .empty).keys.Nodup := by
  cases found : t.get? outer with
  | none => exact List.nodup_nil
  | some inner => exact (h.2 outer inner found).1

/-- The inner tables of one table over another are over each other. -/
theorem getD_overlayNested (h : IsRegularNested t) (outer : Text) :
    ((overlayNested s t).get? outer).getD .empty =
      ((s.get? outer).getD .empty).overlay ((t.get? outer).getD .empty) := by
  rw [overlayNested, Table.get?_overlayWith h.1]
  cases t.get? outer <;> rfl

theorem nested?_eq (t : Table Text (Table Text Text)) (outer inner : Text) :
    nested? t outer inner = ((t.get? outer).getD .empty).get? inner := by
  unfold nested?
  cases t.get? outer <;> rfl

theorem nested?_overlayNested (h : IsRegularNested t) (outer inner : Text) :
    nested? (overlayNested s t) outer inner =
      (nested? t outer inner).or (nested? s outer inner) := by
  rw [nested?_eq, nested?_eq, nested?_eq, getD_overlayNested h, Table.get?_overlay (h.inner outer)]

theorem overlayNested_insertNested (hs : IsRegularNested s) (ht : IsRegularNested t)
    (outer inner name : Text) : overlayNested s (insertNested t outer inner name) =
      insertNested (overlayNested s t) outer inner name := by
  rw [insertNested, insertNested, getD_overlayNested ht, overlayNested,
    Table.overlayWith_insert hs.1 ht.1, Table.overlay_insert (hs.inner outer) (ht.inner outer)]
  rfl

theorem overlayNested_self (h : IsRegularNested t) : overlayNested t t = t :=
  Table.overlayWith_self h.1 fun outer inner found => Table.overlay_self (h.2 outer inner found).1

end Nested

section Overlay
variable {db upper : Database}

theorem name?_overlay (h : upper.IsRegular) (p : Place) :
    (db.overlay upper).name? p = (upper.name? p).or (db.name? p) := by
  cases p with
  | vendor id => exact Table.get?_overlay h.vendors id
  | device vendor id => exact nested?_overlayNested h.devices vendor id
  | subsystem device pair => exact nested?_overlayNested h.subsystems device pair
  | deviceClass id => exact Table.get?_overlay h.classes id
  | subclass id => exact Table.get?_overlay h.subclasses id

/-- An entry inserted into the upper database is inserted into what comes of both. -/
theorem overlay_insert (below : db.IsRegular) (h : upper.IsRegular) (e : DatabaseEntry) :
    db.overlay (upper.insert e) = (db.overlay upper).insert e := by
  cases e with
  | vendor id name => simp only [overlay, insert, Table.overlay_insert below.vendors h.vendors]
  | device vendor id name =>
    simp only [overlay, insert, overlayNested_insertNested below.devices h.devices]
  | subsystem device pair name =>
    simp only [overlay, insert, overlayNested_insertNested below.subsystems h.subsystems]
  | deviceClass id name => simp only [overlay, insert, Table.overlay_insert below.classes h.classes]
  | subclass id name =>
    simp only [overlay, insert, Table.overlay_insert below.subclasses h.subclasses]

theorem overlay_insertAll (below : db.IsRegular) (h : upper.IsRegular) (es : List DatabaseEntry) :
    db.overlay (upper.insertAll es) = (db.overlay upper).insertAll es := by
  induction es generalizing upper with
  | nil => rfl
  | cons e rest ih =>
    have first : upper.insertAll (e :: rest) = (upper.insert e).insertAll rest := rfl
    rw [first, ih (h.insert e), overlay_insert below h]
    rfl

theorem overlay_self (h : db.IsRegular) : db.overlay db = db := by
  simp only [overlay, Table.overlay_self h.vendors, overlayNested_self h.devices,
    overlayNested_self h.subsystems, Table.overlay_self h.classes, Table.overlay_self h.subclasses]

end Overlay

end Database

/-- Lines in which nothing is declared behind tabs before a line that starts a vendor or a class, and
so nothing at all if there is no such line. -/
def IsSelfContained (lines : List Text) : Prop :=
  ∀ before line after n d, lines = before ++ line :: after →
    LineDeclares line (.indented n) d → ∃ l ∈ before, StartsSection l

namespace Context

theorem entries_of_isSelfContained {lines : List Text} (h : IsSelfContained lines)
    (ctx ctx' : Context) : ctx.entries lines = ctx'.entries lines := by
  induction lines generalizing ctx ctx' with
  | nil => rfl
  | cons line rest ih =>
    rw [entries_cons, entries_cons]
    cases found : declared? line with
    | none =>
      have silent := declared?_eq_none_iff.1 found
      have later : IsSelfContained rest := by
        intro before l after n d split here
        obtain ⟨l', hl, starts⟩ := h (line :: before) l after n d (by rw [split]; rfl) here
        rcases List.mem_cons.1 hl with rfl | hl
        · obtain ⟨d', here' | here'⟩ := starts
          · exact absurd here' (silent _ _)
          · exact absurd here' (silent _ _)
        · exact ⟨l', hl, starts⟩
      rw [advance_of_silent silent, advance_of_silent silent, ih later ctx ctx']
    | some what =>
      obtain ⟨rank, d⟩ := what
      have here := declared?_eq_some_iff.1 found
      rw [advance_of_declares here, advance_of_declares here]
      cases rank with
      | vendor => rfl
      | deviceClass => rfl
      | indented n =>
        obtain ⟨l, hl, -⟩ := h [] line rest n d rfl here
        cases hl

end Context

namespace Database

theorem ofLines_append {upper : List Text} (h : IsSelfContained (upper.map Text.dropLineEnd))
    (lower : List Text) (source : Option Text) :
    ofLines (lower ++ upper) source = (ofLines lower source).overlay (ofLines upper source) := by
  have empty : (ofLines lower source).overlay { Database.empty with source := source } =
      ofLines lower source := rfl
  rw [ofLines_eq_insertAll upper, overlay_insertAll (isRegular_ofLines lower source)
    (isRegular_empty source), empty, ofLines_eq_insertAll lower, ← insertAll_append,
    ofLines_eq_insertAll, List.map_append, Context.entries_append,
    Context.entries_of_isSelfContained h _ .initial]

/-- What comes of self-contained lines behind other lines is what comes of them alone, laid over
what comes of the others: its names win, and no name is lost or added. A second time they change
nothing. -/
theorem ofLines_append_isSelfContained {upper : List Text}
    (h : IsSelfContained (upper.map Text.dropLineEnd)) (lower : List Text)
    (source : Option Text) :
    ofLines (lower ++ upper) source = (ofLines lower source).overlay (ofLines upper source) ∧
    (∀ p, (ofLines (lower ++ upper) source).name? p =
      ((ofLines upper source).name? p).or ((ofLines lower source).name? p)) ∧
    ofLines (upper ++ upper) source = ofLines upper source := by
  have regular := isRegular_ofLines upper source
  refine ⟨ofLines_append h lower source, fun p => ?_, ?_⟩
  · rw [ofLines_append h, name?_overlay regular]
  · rw [ofLines_append h, overlay_self regular]

end Database

/-- Lines of which the first starts a vendor or a class are self-contained. -/
theorem isSelfContained_cons {line : Text} (starts : StartsSection line) (rest : List Text) :
    IsSelfContained (line :: rest) := by
  intro before l after n d split here
  cases before with
  | nil =>
    obtain ⟨rfl, -⟩ := List.cons.inj split
    exact absurd starts (Context.not_startsSection_of_indented here)
  | cons first before =>
    obtain ⟨rfl, -⟩ := List.cons.inj split
    exact ⟨line, List.mem_cons_self, starts⟩

namespace Database

/-- A vendor that is declared again keeps its old device, and has the new name and the new device as
well. -/
theorem ofLines_append_isSelfContained_again :
    let lower := ["8086  Intel".toList, "\t1237  440FX".toList]
    let upper := ["8086  Intel Corporation".toList, "\t7000  PIIX3".toList]
    IsSelfContained (upper.map Text.dropLineEnd) ∧
    (ofLines (lower ++ upper) none).name? (.vendor "8086".toList) =
      some "Intel Corporation".toList ∧
    (ofLines (lower ++ upper) none).name? (.device "8086".toList "1237".toList) =
      some "440FX".toList ∧
    (ofLines (lower ++ upper) none).name? (.device "8086".toList "7000".toList) =
      some "PIIX3".toList ∧
    ofLines (upper ++ upper) none = ofLines upper none := by
  intro lower upper
  have here : LineDeclares "8086  Intel Corporation".toList .vendor
      ⟨"8086".toList, "Intel Corporation".toList⟩ :=
    Context.declared?_eq_some_iff.1 (by decide +kernel)
  have starts : StartsSection "8086  Intel Corporation".toList := ⟨_, .inl here⟩
  have contained : IsSelfContained (upper.map Text.dropLineEnd) := by
    have same : upper.map Text.dropLineEnd = upper := by decide +kernel
    rw [same]
    exact isSelfContained_cons starts _
  obtain ⟨-, names, again⟩ := ofLines_append_isSelfContained contained lower none
  refine ⟨contained, ?_, ?_, ?_, again⟩
  · rw [names]
    decide +kernel
  · rw [names]
    decide +kernel
  · rw [names]
    decide +kernel

end Database

end PciInventory
