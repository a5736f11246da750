import PciInventory.Proofs.Database.Declaring
import PciInventory.Proofs.Database.Entries
import PciInventory.Proofs.Text.Lowering

/-!
# Well-formed contexts and closed tables

The reader puts keys together from parts of its context, which may be absent, and never looks
whether they are there. That is right because its context says, with the section that it is in,
which parts it has: a line keeps this, so every run of lines does. The tables that come of it are
closed: a device has a vendor, a subsystem a device and a subclass a class in the tables, and a
database without vendors and classes has nothing at all.

Nothing is said here of which lines a database comes from.
-/
namespace PciInventory

/-- What an id is in a key: not empty, without blanks around it, and in lower case. -/
structure IsKeyPart (t : Text) : Prop where
  some : t ≠ []
  trimmed : Text.strip t = t
  lower : Text.lower t = t

theorem IsKeyPart.isLower {t : Text} (h : IsKeyPart t) : ∀ c ∈ t, Text.Case.IsLower c := by
  intro c hc
  rw [← h.lower] at hc
  exact Text.isLower_of_mem_lower hc

theorem IsKeyPart.words {t : Text} (h : IsKeyPart t) :
    Text.words t ≠ [] ∧ ∀ part ∈ Text.words t, IsKeyPart part := by
  constructor
  · apply Text.words_ne_nil
    rw [h.trimmed]
    exact h.some
  · intro part hp
    obtain ⟨some, chars⟩ := Text.mem_of_mem_words hp
    exact ⟨some, Text.strip_eq_self_of_forall fun c hc => (chars c hc).2,
      Text.lower_eq_self fun c hc => h.isLower c (chars c hc).1⟩

theorem Declaration.Declares.isKeyPart {body : Text} {d : Declaration} (h : Declares body d) :
    IsKeyPart d.id ∧ Text.strip d.name = d.name := by
  obtain ⟨front, back, -, visible, rfl⟩ := h
  have some : Text.lower (Text.strip front) ≠ [] :=
    fun none => visible (Text.lower_eq_nil_iff.1 none)
  exact ⟨⟨some, Text.strip_lower (Text.strip_strip front), Text.lower_lower _⟩,
    Text.strip_strip back⟩

theorem LineDeclares.isKeyPart {line : Text} {rank : LineRank} {d : Declaration}
    (h : LineDeclares line rank d) : IsKeyPart d.id ∧ Text.strip d.name = d.name := by
  obtain ⟨-, -, tabs, body, -, -, what⟩ := h
  cases rank with
  | vendor => exact what.2.2.isKeyPart
  | deviceClass =>
    obtain ⟨-, rest, -, declares⟩ := what
    exact declares.isKeyPart
  | indented n => exact what.2.2.isKeyPart

/-- A context that has the parts which its section calls for, and no others. -/
inductive Context.IsWellFormed : Context → Prop where
  | outside : IsWellFormed ⟨.none, none, none, none, none⟩
  | inClass (c : Text) : IsWellFormed ⟨.inClass, none, none, some c, none⟩
  | inSubclass (c : Text) {s : Text} (extends_class : s ≠ []) :
      IsWellFormed ⟨.inClass, none, none, some c, some (c ++ s)⟩
  | inVendor (v : Text) : IsWellFormed ⟨.inVendor, some v, none, none, none⟩
  | inDevice (v d : Text) : IsWellFormed ⟨.inDevice, some v, some d, none, none⟩

/-- An entry whose keys are put together from parts that a context has. -/
def DatabaseEntry.IsBuiltFrom (ctx : Context) : DatabaseEntry → Prop
  | .vendor .. => True
  | .device owner _ _ => ctx.vendor = some owner
  | .subsystem key _ _ =>
    ∃ v d, ctx.vendor = some v ∧ ctx.device = some d ∧ key = Database.pairKey v d
  | .deviceClass .. => True
  | .subclass key _ => ∃ c s, ctx.deviceClass = some c ∧ s ≠ [] ∧ key = c ++ s

/-- What a declaration does to a context: the next context, and the entry that is added. -/
inductive Context.Takes (ctx : Context) (d : Declaration) :
    Context → Option DatabaseEntry → Prop where
  | vendor : Takes ctx d ⟨.inVendor, some d.id, none, none, none⟩ (some (.vendor d.id d.name))
  | deviceClass :
      Takes ctx d ⟨.inClass, none, none, some d.id, none⟩ (some (.deviceClass d.id d.name))
  | device {v : Text} (owner : ctx.vendor = some v) :
      Takes ctx d ⟨.inDevice, some v, some d.id, none, none⟩ (some (.device v d.id d.name))
  | subclass {c : Text} (owner : ctx.deviceClass = some c) :
      Takes ctx d ⟨.inClass, none, none, some c, some (c ++ d.id)⟩
        (some (.subclass (c ++ d.id) d.name))
  | subsystem {v d' : Text} (owner : ctx.vendor = some v) (device : ctx.device = some d') :
      Takes ctx d ctx
        (some (.subsystem (Database.pairKey v d') (Context.subsystemKey d.id) d.name))
  | nothing : Takes ctx d ctx none

namespace Context
variable {ctx next : Context} {d : Declaration} {added : Option DatabaseEntry}

theorem IsWellFormed.takes (h : ctx.IsWellFormed) (rank : LineRank) (d : Declaration) :
    Takes ctx d (ctx.respond rank d).1 (ctx.respond rank d).2 := by
  match rank with
  | .vendor => exact .vendor
  | .deviceClass => exact .deviceClass
  | .indented 1 =>
    cases h with
    | outside => exact .nothing
    | inClass c => exact .subclass rfl
    | inSubclass c _ => exact .subclass rfl
    | inVendor v => exact .device rfl
    | inDevice v _ => exact .device rfl
  | .indented 2 =>
    cases h with
    | outside => exact .nothing
    | inClass c => exact .nothing
    | inSubclass c _ => exact .nothing
    | inVendor v => exact .nothing
    | inDevice v d' => exact .subsystem rfl rfl
  | .indented 0 => exact .nothing
  | .indented (n + 3) => exact .nothing

/-- A line changes nothing, or a well-formed context takes what it declares. -/
theorem IsWellFormed.advance_cases (h : ctx.IsWellFormed) (line : Text) :
    ctx.advance line = (ctx, none) ∨
      ∃ d, IsKeyPart d.id ∧ Text.strip d.name = d.name ∧
        Takes ctx d (ctx.advance line).1 (ctx.advance line).2 := by
  cases found : declared? line with
  | none => exact .inl (advance_of_silent (declared?_eq_none_iff.1 found) ctx)
  | some what =>
    have here := declared?_eq_some_iff.1 found
    obtain ⟨part, trimmed⟩ := here.isKeyPart
    refine .inr ⟨what.2, part, trimmed, ?_⟩
    rw [advance_of_declares here]
    exact h.takes what.1 what.2

theorem Takes.isWellFormed (t : Takes ctx d next added) (h : ctx.IsWellFormed)
    (filled : d.id ≠ []) : next.IsWellFormed := by
  cases t with
  | vendor => exact .inVendor d.id
  | deviceClass => exact .inClass d.id
  | device owner => exact .inDevice _ d.id
  | subclass owner => exact .inSubclass _ filled
  | subsystem owner device => exact h
  | nothing => exact h

theorem Takes.isBuiltFrom {e : DatabaseEntry} (t : Takes ctx d next (some e))
    (filled : d.id ≠ []) : e.IsBuiltFrom ctx := by
  cases t with
  | vendor => trivial
  | deviceClass => trivial
  | device owner => exact owner
  | subclass owner => exact ⟨_, d.id, owner, filled, rfl⟩
  | subsystem owner device => exact ⟨_, _, owner, device, rfl⟩

theorem IsWellFormed.advance (h : ctx.IsWellFormed) (line : Text) :
    (ctx.advance line).1.IsWellFormed := by
  rcases h.advance_cases line with same | ⟨d, part, -, t⟩
  · rw [same]
    exact h
  · exact t.isWellFormed h part.some

theorem IsWellFormed.isBuiltFrom (h : ctx.IsWellFormed) {line : Text} {e : DatabaseEntry}
    (he : (ctx.advance line).2 = some e) : e.IsBuiltFrom ctx := by
  rcases h.advance_cases line with same | ⟨d, part, -, t⟩
  · rw [same] at he
    cases he
  · rw [he] at t
    exact t.isBuiltFrom part.some

theorem isWellFormed_after (lines : List Text) : (initial.after lines).IsWellFormed := by
  induction lines using List.reverseRecOn with
  | nil => exact .outside
  | append_singleton lines line ih =>
    rw [after_append]
    exact ih.advance line

end Context

namespace Database

/-- Whether a place has a name. -/
def Has (db : Database) (p : Place) : Prop := ∃ name, db.name? p = some name

theorem has_insert {db : Database} {e : DatabaseEntry} {p : Place} :
    (db.insert e).Has p ↔ e.place = p ∨ db.Has p := by
  unfold Has
  rw [name?_insert]
  by_cases h : e.place = p
  · simp [h]
  · simp [h]

/-- What a database has to have, and what the ids have to be, for a place to have a name. -/
def Supports (db : Database) : Place → Prop
  | .vendor id => IsKeyPart id
  | .device vendor id => db.Has (.vendor vendor) ∧ IsKeyPart id
  | .subsystem key pair =>
    (∃ v d, key = pairKey v d ∧ db.Has (.device v d)) ∧
      ∃ parts, parts ≠ [] ∧ pair = Text.joinWith [':'] parts ∧ ∀ part ∈ parts, IsKeyPart part
  | .deviceClass id => IsKeyPart id
  | .subclass key => ∃ c s, key = c ++ s ∧ db.Has (.deviceClass c) ∧ IsKeyPart s

theorem Supports.mono {db db' : Database} {p : Place} (h : db.Supports p)
    (more : ∀ p, db.Has p → db'.Has p) : db'.Supports p := by
  cases p with
  | vendor id => exact h
  | device v id => exact ⟨more _ h.1, h.2⟩
  | subsystem key pair =>
    obtain ⟨⟨v, d, rfl, device⟩, parts⟩ := h
    exact ⟨⟨v, d, rfl, more _ device⟩, parts⟩
  | deviceClass id => exact h
  | subclass key =>
    obtain ⟨c, s, rfl, deviceClass, part⟩ := h
    exact ⟨c, s, rfl, more _ deviceClass, part⟩

/-- A database in which every place with a name is supported, and every name trimmed. -/
def IsGrounded (db : Database) : Prop :=
  ∀ p name, db.name? p = some name → db.Supports p ∧ Text.strip name = name

theorem IsGrounded.insert {db : Database} (h : db.IsGrounded) {e : DatabaseEntry}
    (supported : db.Supports e.place) (trimmed : Text.strip e.name = e.name) :
    (db.insert e).IsGrounded := by
  have more : ∀ p, db.Has p → (db.insert e).Has p := fun p old => has_insert.2 (.inr old)
  intro p name found
  rw [name?_insert] at found
  split at found
  · rename_i here
    cases found
    rw [← here]
    exact ⟨supported.mono more, trimmed⟩
  · obtain ⟨supported, trimmed⟩ := h p name found
    exact ⟨supported.mono more, trimmed⟩

/-- A database has a name for each id of a context. -/
structure Knows (db : Database) (ctx : Context) : Prop where
  vendor : ∀ v, ctx.vendor = some v → db.Has (.vendor v)
  device : ∀ v d, ctx.vendor = some v → ctx.device = some d → db.Has (.device v d)
  deviceClass : ∀ c, ctx.deviceClass = some c → db.Has (.deviceClass c)

/-- What an entry names is supported where the context that it comes of is known. -/
theorem Knows.supports {db : Database} {ctx next : Context} {d : Declaration} {e : DatabaseEntry}
    (k : db.Knows ctx) (t : ctx.Takes d next (some e)) (part : IsKeyPart d.id) :
    db.Supports e.place ∧ e.name = d.name := by
  cases t with
  | vendor => exact ⟨part, rfl⟩
  | deviceClass => exact ⟨part, rfl⟩
  | device owner => exact ⟨⟨k.vendor _ owner, part⟩, rfl⟩
  | subclass owner => exact ⟨⟨_, d.id, rfl, k.deviceClass _ owner, part⟩, rfl⟩
  | subsystem owner device =>
    obtain ⟨some, parts⟩ := part.words
    exact ⟨⟨⟨_, _, rfl, k.device _ _ owner device⟩, _, some, rfl, parts⟩, rfl⟩

/-- The next context is known once the entry is added. -/
theorem Knows.insert {db : Database} {ctx next : Context} {d : Declaration} {e : DatabaseEntry}
    (k : db.Knows ctx) (t : ctx.Takes d next (some e)) : (db.insert e).Knows next := by
  have old {p : Place} (h : db.Has p) : (db.insert e).Has p := has_insert.2 (.inr h)
  have new : (db.insert e).Has e.place := has_insert.2 (.inl rfl)
  cases t with
  | vendor => exact ⟨by rintro v ⟨⟩; exact new, nofun, nofun⟩
  | deviceClass => exact ⟨nofun, nofun, by rintro c ⟨⟩; exact new⟩
  | device owner =>
    exact ⟨by rintro v ⟨⟩; exact old (k.vendor _ owner), by rintro v d ⟨⟩ ⟨⟩; exact new, nofun⟩
  | subclass owner => exact ⟨nofun, nofun, by rintro c ⟨⟩; exact old (k.deviceClass _ owner)⟩
  | subsystem owner device =>
    exact ⟨fun v hv => old (k.vendor v hv), fun v d hv hd => old (k.device v d hv hd),
      fun c hc => old (k.deviceClass c hc)⟩

/-- A reading in which the context is well-formed, the names that the context speaks of are there,
and so is all that the names rest on. -/
structure Reading.IsSound (r : Reading) : Prop where
  context : r.context.IsWellFormed
  known : r.database.Knows r.context
  grounded : r.database.IsGrounded

theorem Reading.IsSound.feed {r : Reading} (h : r.IsSound) (line : Text) :
    (r.feed line).IsSound := by
  unfold Reading.feed
  rcases h.context.advance_cases (Text.dropLineEnd line) with same | ⟨d, part, trimmed, t⟩
  · rw [same]
    exact h
  · have next := t.isWellFormed h.context part.some
    generalize r.context.advance (Text.dropLineEnd line) = step at t next
    obtain ⟨ctx, added⟩ := step
    cases added with
    | none =>
      cases t with
      | nothing => exact h
    | some e =>
      obtain ⟨supported, named⟩ := h.known.supports t part
      exact ⟨next, h.known.insert t, h.grounded.insert supported (by rw [named, trimmed])⟩

theorem Reading.IsSound.foldl {r : Reading} (h : r.IsSound) (lines : List Text) :
    (lines.foldl Reading.feed r).IsSound := by
  induction lines generalizing r with
  | nil => exact h
  | cons line rest ih => exact ih (h.feed line)

theorem isGrounded_ofLines (lines : List Text) (source : Option Text) :
    (ofLines lines source).IsGrounded := by
  have start : (⟨{ empty with source := source }, .initial⟩ : Reading).IsSound := by
    refine ⟨.outside, ⟨nofun, nofun, nofun⟩, ?_⟩
    intro p name found
    rw [name?_empty] at found
    cases found
  exact (start.foldl lines).grounded

/-- Tables that refer to each other only: of every owner that a key speaks of there is a row, no
inner table is without rows, the parts of a key are ids, and names are trimmed. -/
structure IsClosed (db : Database) : Prop where
  vendors : ∀ id ∈ db.vendors.keys, IsKeyPart id
  devices : ∀ vendor devices, db.devices.get? vendor = some devices →
    vendor ∈ db.vendors.keys ∧ devices.isEmpty = false ∧ ∀ id ∈ devices.keys, IsKeyPart id
  subsystems : ∀ key pairs, db.subsystems.get? key = some pairs →
    (∃ v d devices, key = pairKey v d ∧ v ∈ db.vendors.keys ∧
      db.devices.get? v = some devices ∧ d ∈ devices.keys) ∧
    pairs.isEmpty = false ∧
    ∀ pair ∈ pairs.keys, ∃ parts, parts ≠ [] ∧ pair = Text.joinWith [':'] parts ∧
      ∀ part ∈ parts, IsKeyPart part
  classes : ∀ id ∈ db.classes.keys, IsKeyPart id
  subclasses : ∀ key ∈ db.subclasses.keys,
    ∃ c s, key = c ++ s ∧ c ∈ db.classes.keys ∧ IsKeyPart s
  names : ∀ p name, db.name? p = some name → Text.strip name = name

theorem has_vendor_iff {db : Database} {id : Text} :
    db.Has (.vendor id) ↔ id ∈ db.vendors.keys := by
  rw [← Table.get?_isSome_iff, Option.isSome_iff_exists]
  rfl

theorem has_deviceClass_iff {db : Database} {id : Text} :
    db.Has (.deviceClass id) ↔ id ∈ db.classes.keys := by
  rw [← Table.get?_isSome_iff, Option.isSome_iff_exists]
  rfl

theorem has_subclass_iff {db : Database} {key : Text} :
    db.Has (.subclass key) ↔ key ∈ db.subclasses.keys := by
  rw [← Table.get?_isSome_iff, Option.isSome_iff_exists]
  rfl

theorem exists_nested?_iff {t : Table Text (Table Text Text)} {outer inner : Text} :
    (∃ name, nested? t outer inner = some name) ↔
      ∃ table, t.get? outer = some table ∧ inner ∈ table.keys := by
  unfold nested?
  cases t.get? outer with
  | none => simp
  | some table =>
    simp only [Option.bind_some, ← Option.isSome_iff_exists, Table.get?_isSome_iff,
      Option.some.injEq, exists_eq_left']

theorem has_device_iff {db : Database} {vendor id : Text} :
    db.Has (.device vendor id) ↔
      ∃ devices, db.devices.get? vendor = some devices ∧ id ∈ devices.keys := exists_nested?_iff

theorem has_subsystem_iff {db : Database} {key pair : Text} :
    db.Has (.subsystem key pair) ↔
      ∃ pairs, db.subsystems.get? key = some pairs ∧ pair ∈ pairs.keys := exists_nested?_iff

theorem IsGrounded.supports {db : Database} (h : db.IsGrounded) {p : Place} (here : db.Has p) :
    db.Supports p := by
  obtain ⟨name, found⟩ := here
  exact (h p name found).1

/-- A grounded database is closed once no inner table is without rows: a row of the inner table is
what its key is supported by. -/
theorem IsGrounded.isClosed {db : Database} (h : db.IsGrounded) (regular : db.IsRegular) :
    db.IsClosed where
  vendors id hid := h.supports (has_vendor_iff.2 hid)
  classes id hid := h.supports (has_deviceClass_iff.2 hid)
  devices := by
    intro vendor devices found
    have filled := (regular.devices.2 vendor devices found).2
    have supported : ∀ id ∈ devices.keys, db.Has (.vendor vendor) ∧ IsKeyPart id :=
      fun id hid => h.supports (has_device_iff.2 ⟨devices, found, hid⟩)
    obtain ⟨id, hid⟩ := Table.exists_mem_keys filled
    exact ⟨has_vendor_iff.1 (supported id hid).1, filled, fun id hid => (supported id hid).2⟩
  subsystems := by
    intro key pairs found
    have filled := (regular.subsystems.2 key pairs found).2
    have supported : ∀ pair ∈ pairs.keys, db.Supports (.subsystem key pair) :=
      fun pair hp => h.supports (has_subsystem_iff.2 ⟨pairs, found, hp⟩)
    refine ⟨?_, filled, fun pair hp => (supported pair hp).2⟩
    obtain ⟨pair, hp⟩ := Table.exists_mem_keys filled
    obtain ⟨v, d, rfl, device⟩ := (supported pair hp).1
    obtain ⟨devices, here, hd⟩ := has_device_iff.1 device
    exact ⟨v, d, devices, rfl, has_vendor_iff.1 (h.supports device).1, here, hd⟩
  subclasses := by
    intro key hk
    obtain ⟨c, s, rfl, deviceClass, part⟩ := h.supports (has_subclass_iff.2 hk)
    exact ⟨c, s, rfl, has_deviceClass_iff.1 deviceClass, part⟩
  names p name found := (h p name found).2

/-- Without vendors and classes a closed database has no rows at all. -/
theorem IsClosed.isEmpty_iff {db : Database} (h : db.IsClosed) :
    db.isEmpty = true ↔
      db.vendors.isEmpty = true ∧ db.devices.isEmpty = true ∧ db.subsystems.isEmpty = true ∧
        db.classes.isEmpty = true ∧ db.subclasses.isEmpty = true := by
  rw [isEmpty, Bool.and_eq_true]
  constructor
  · rintro ⟨vendors, classes⟩
    have noVendor : ∀ v, v ∉ db.vendors.keys := Table.isEmpty_iff.1 vendors
    have noClass : ∀ c, c ∉ db.classes.keys := Table.isEmpty_iff.1 classes
    refine ⟨vendors, ?_, ?_, classes, ?_⟩
    · refine Table.isEmpty_iff.2 fun v hv => ?_
      obtain ⟨devices, found⟩ := Option.isSome_iff_exists.1 ((Table.get?_isSome_iff _ v).2 hv)
      exact noVendor v (h.devices v devices found).1
    · refine Table.isEmpty_iff.2 fun key hk => ?_
      obtain ⟨pairs, found⟩ := Option.isSome_iff_exists.1 ((Table.get?_isSome_iff _ key).2 hk)
      obtain ⟨v, -, -, -, hv, -⟩ := (h.subsystems key pairs found).1
      exact noVendor v hv
    · refine Table.isEmpty_iff.2 fun key hk => ?_
      obtain ⟨c, -, -, hc, -⟩ := h.subclasses key hk
      exact noClass c hc
  · rintro ⟨vendors, -, -, classes, -⟩
    exact ⟨vendors, classes⟩

/-- Some lines lead to a well-formed context, a line adds an entry whose keys are put together from
parts that the context has, and the tables of the lines are closed. -/
theorem ofLines_isClosed (lines : List Text) (source : Option Text) :
    (Context.initial.after lines).IsWellFormed ∧
    (∀ line e, ((Context.initial.after lines).advance line).2 = some e →
      e.IsBuiltFrom (Context.initial.after lines)) ∧
    (ofLines lines source).IsClosed ∧
    ((ofLines lines source).isEmpty = true ↔
      (ofLines lines source).vendors.isEmpty = true ∧
      (ofLines lines source).devices.isEmpty = true ∧
      (ofLines lines source).subsystems.isEmpty = true ∧
      (ofLines lines source).classes.isEmpty = true ∧
      (ofLines lines source).subclasses.isEmpty = true) := by
  have context := Context.isWellFormed_after lines
  have closed := (isGrounded_ofLines lines source).isClosed (isRegular_ofLines lines source)
  exact ⟨context, fun line e added => context.isBuiltFrom added, closed, closed.isEmpty_iff⟩

end Database

end PciInventory
