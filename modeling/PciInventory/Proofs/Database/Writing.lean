import PciInventory.Proofs.Database.IdleLines
import PciInventory.Proofs.Database.Spelling

/-!
# Reading a written catalogue

What the reader makes of the lines of a catalogue, level by level: a block of lines adds the entries
of its item and leaves the context to the next sibling. Blank lines and comments do nothing, and a
line may have any line ends behind it. So a writing adds the entries of its sections in their order.
-/
namespace PciInventory

namespace Context

/-- From every context in `S` some lines add some entries and leave a context in `S'`. -/
def Reads (S : Context → Prop) (lines : List Text) (es : List DatabaseEntry)
    (S' : Context → Prop) : Prop :=
  ∀ ctx, S ctx → ctx.entries lines = es ∧ S' (ctx.after lines)

namespace Reads
variable {S S' S'' : Context → Prop}

theorem append {as bs : List Text} {es fs : List DatabaseEntry} (first : Reads S as es S')
    (second : Reads S' bs fs S'') : Reads S (as ++ bs) (es ++ fs) S'' := by
  intro ctx h
  obtain ⟨added, left⟩ := first ctx h
  obtain ⟨added', left'⟩ := second _ left
  rw [entries_append, after_append, added, added']
  exact ⟨rfl, left'⟩

theorem weaken {lines : List Text} {es : List DatabaseEntry} (h : Reads S lines es S')
    (less : ∀ ctx, S' ctx → S'' ctx) : Reads S lines es S'' := by
  intro ctx hS
  obtain ⟨added, left⟩ := h ctx hS
  exact ⟨added, less _ left⟩

theorem added {line : Text} {rank : LineRank} {d : Declaration} {e : DatabaseEntry}
    (here : LineDeclares line rank d)
    (h : ∀ ctx, S ctx → ∃ ctx', ctx.respond rank d = (ctx', some e) ∧ S' ctx') :
    Reads S [line] [e] S' := by
  intro ctx hS
  obtain ⟨ctx', step, left⟩ := h ctx hS
  rw [entries_cons, after_cons, advance_of_declares here, step]
  exact ⟨rfl, left⟩

theorem passed {line : Text} {rank : LineRank} {d : Declaration} (here : LineDeclares line rank d)
    (h : ∀ ctx, S ctx → ctx.respond rank d = (ctx, none)) : Reads S [line] [] S := by
  intro ctx hS
  rw [entries_cons, after_cons, advance_of_declares here, h ctx hS]
  exact ⟨rfl, hS⟩

/-- Siblings, each of which leaves the context to the next one. -/
theorem flatMap {α : Type} {items : List α} {lines : α → List Text}
    {es : α → List DatabaseEntry} (h : ∀ a ∈ items, Reads S (lines a) (es a) S) :
    Reads S (items.flatMap lines) (items.flatMap es) S := by
  induction items with
  | nil => exact fun ctx hS => ⟨rfl, hS⟩
  | cons a rest ih =>
    exact (h a List.mem_cons_self).append (ih fun b hb => h b (List.mem_cons_of_mem a hb))

/-- Siblings of one line and one entry each. -/
theorem map {α : Type} {items : List α} {line : α → Text} {e : α → DatabaseEntry}
    (h : ∀ a ∈ items, Reads S [line a] [e a] S) :
    Reads S (items.map line) (items.map e) S := by
  rw [List.map_eq_flatMap, List.map_eq_flatMap]
  exact flatMap h

end Reads

/-- The context stands in the section of a vendor. -/
def InVendor (v : Text) (ctx : Context) : Prop :=
  (ctx.part = .inVendor ∨ ctx.part = .inDevice) ∧ ctx.vendor = some v

/-- The context stands at a device of a vendor. -/
def InDevice (v d : Text) (ctx : Context) : Prop :=
  ctx.part = .inDevice ∧ ctx.vendor = some v ∧ ctx.device = some d

/-- The context stands in the section of a class. -/
def InClass (c : Text) (ctx : Context) : Prop :=
  ctx.part = .inClass ∧ ctx.deviceClass = some c

end Context

namespace Catalogue
open Context

theorem Subsystem.reads (v d : BitVec 16) (s : Subsystem) :
    Reads (InDevice (hex v) (hex d)) [s.line] [s.entry v d] (InDevice (hex v) (hex d)) := by
  have key : subsystemKey s.ids = Database.pairKey (hex s.vendor) (hex s.device) :=
    IsId.subsystemKey_pair (isId_hex16 _) (isId_hex16 _)
  refine Reads.added s.line_declares ?_
  rintro ctx ⟨part, owner, device⟩
  refine ⟨ctx, ?_, part, owner, device⟩
  simp only [respond, part, owner, device, idText, Option.getD_some, key, Subsystem.entry]

theorem Device.reads (v : BitVec 16) (d : Device) :
    Reads (InVendor (hex v)) d.lines (d.entries v) (InVendor (hex v)) := by
  have heading : Reads (InVendor (hex v)) ['\t' :: declaration (hex d.id) d.name]
      [.device (hex v) (hex d.id) d.name.text] (InDevice (hex v) (hex d.id)) := by
    refine Reads.added ((isId_hex16 d.id).member_line d.name) ?_
    rintro ctx ⟨part, owner⟩
    refine ⟨{ ctx with part := .inDevice, device := some (hex d.id) }, ?_, rfl, owner, rfl⟩
    rcases part with part | part <;> simp only [respond, part, owner, Option.getD_some]
  have subsystems := Reads.map fun s (_ : s ∈ d.subsystems) => Subsystem.reads v d.id s
  exact (heading.append subsystems).weaken fun ctx h => ⟨.inr h.1, h.2.1⟩

theorem Vendor.reads (v : Vendor) : Reads (fun _ => True) v.lines v.entries fun _ => True := by
  have heading : Reads (fun _ => True) [declaration (hex v.id) v.name]
      [.vendor (hex v.id) v.name.text] (InVendor (hex v.id)) :=
    Reads.added ((isId_hex16 v.id).vendor_line v.name) fun _ _ => ⟨_, rfl, .inl rfl, rfl⟩
  have devices := Reads.flatMap fun d (_ : d ∈ v.devices) => Device.reads v.id d
  exact (heading.append devices).weaken fun _ _ => trivial

/-- Programming interfaces stand where a vendor has subsystems, and add nothing. -/
theorem Interface.reads (c : BitVec 8) (i : Interface) :
    Reads (InClass (hex c)) [i.line] [] (InClass (hex c)) := by
  refine Reads.passed i.line_declares ?_
  rintro ctx ⟨part, owner⟩
  simp only [respond, part]

theorem Subclass.reads (c : BitVec 8) (s : Subclass) :
    Reads (InClass (hex c)) s.lines [s.entry c] (InClass (hex c)) := by
  have heading : Reads (InClass (hex c)) ['\t' :: declaration (hex s.id) s.name] [s.entry c]
      (InClass (hex c)) := by
    refine Reads.added ((isId_hex8 s.id).member_line s.name) ?_
    rintro ctx ⟨part, owner⟩
    refine ⟨{ ctx with subclass := some (hex c ++ hex s.id) }, ?_, part, owner⟩
    simp only [respond, part, owner, idText, Option.getD_some, Subclass.entry]
  have interfaces : Reads (InClass (hex c)) (s.interfaces.map Interface.line) []
      (InClass (hex c)) := by
    have nothing : s.interfaces.flatMap (fun _ => ([] : List DatabaseEntry)) = [] :=
      List.flatMap_eq_nil_iff.2 fun _ _ => rfl
    rw [List.map_eq_flatMap, ← nothing]
    exact Reads.flatMap fun i _ => Interface.reads c i
  exact heading.append interfaces

theorem DeviceClass.reads (c : DeviceClass) :
    Reads (fun _ => True) c.lines c.entries fun _ => True := by
  have heading : Reads (fun _ => True) ['C' :: ' ' :: declaration (hex c.id) c.name]
      [.deviceClass (hex c.id) c.name.text] (InClass (hex c.id)) :=
    Reads.added ((isId_hex8 c.id).class_line c.name) fun _ _ => ⟨_, rfl, rfl, rfl⟩
  have subclasses : Reads (InClass (hex c.id)) (c.subclasses.flatMap Subclass.lines)
      (c.subclasses.map (Subclass.entry c.id)) (InClass (hex c.id)) := by
    rw [List.map_eq_flatMap]
    exact Reads.flatMap fun s _ => Subclass.reads c.id s
  exact (heading.append subclasses).weaken fun _ _ => trivial

/-- Sections add their entries, one section after the other. -/
theorem Chapter.reads (chapters : List Chapter) : Reads (fun _ => True)
    (chapters.flatMap Chapter.lines) (chapters.flatMap Chapter.entries) fun _ => True := by
  refine Reads.flatMap ?_
  rintro (v | c) _
  · exact v.reads
  · exact c.reads

end Catalogue

namespace Interspersed
variable {said lines : List Text}

theorem reads (h : Interspersed said lines) (whole : ∀ line ∈ said, Text.IsOneLine line)
    (ctx : Context) : ctx.entries (lines.map Text.dropLineEnd) = ctx.entries said := by
  induction h generalizing ctx with
  | nil => rfl
  | kept line ending ends rest ih =>
    rw [List.map_cons, Text.dropLineEnd_append (whole line List.mem_cons_self) ends,
      Context.entries_cons, Context.entries_cons,
      ih fun line hl => whole line (List.mem_cons_of_mem _ hl)]
  | idle line idle rest ih =>
    rw [List.map_cons, Context.entries_cons,
      Context.advance_of_isSilent (Context.isSilent_dropLineEnd idle), ih whole]
    rfl

theorem refl (lines : List Text) : Interspersed lines lines := by
  induction lines with
  | nil => exact .nil
  | cons line rest ih => simpa using Interspersed.kept line [] nofun ih

end Interspersed

namespace Catalogue
variable {D : Catalogue} {lines : List Text}

theorem written_lines (D : Catalogue) : D.Written D.lines :=
  ⟨D.chapters, .refl _, Interspersed.refl _⟩

/-- A writing of a catalogue adds the entries of the catalogue, and no others. -/
theorem Written.mem_entries_iff (h : D.Written lines) {e : DatabaseEntry} :
    e ∈ Context.initial.entries (lines.map Text.dropLineEnd) ↔ e ∈ D.entries := by
  obtain ⟨chapters, order, written⟩ := h
  rw [written.reads (Chapter.isOneLine_lines chapters),
    (Chapter.reads chapters Context.initial trivial).1]
  exact (order.flatMap_right Chapter.entries).mem_iff

end Catalogue

end PciInventory
