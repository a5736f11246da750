import PciInventory.Proofs.Database.Closure
import PciInventory.Proofs.Database.Meaning
import PciInventory.Proofs.Database.Naming

/-!
# Hexadecimal keys

An id is meant to be written in lower-case hexadecimal without `0x`, as it is looked up. The reader
does not see to it: it lower-cases what stands in front of a gap and takes it as it is. So the keys
of the tables are of that form exactly if the ids are that stand in the lines which add something. A
line with `0x` in front of its id adds a key that no lookup of the id finds.

Nothing is said here of how many digits a key has.
-/
namespace PciInventory

/-- An id in its documented form: lower-case hexadecimal digits, and at least one. -/
def IsHexId (t : Text) : Prop := t ≠ [] ∧ ∀ c ∈ t, ∃ d < 16, c = Nat.digitChar d

/-- Two such ids with a colon between them. -/
def IsHexPair (t : Text) : Prop := ∃ a b, IsHexId a ∧ IsHexId b ∧ t = Database.pairKey a b

/-- A line whose id, if it declares one, is in its documented form; behind two tabs the id is a
pair. -/
def HasHexId (line : Text) : Prop :=
  ∀ rank d, LineDeclares line rank d →
    if rank = .indented 2 then IsHexPair (Context.subsystemKey d.id) else IsHexId d.id

theorem normalizeId_of_isHexId {t : Text} (h : IsHexId t) : normalizeId t = t := by
  have lower : Text.lower t = t := by
    apply Text.lower_eq_self
    intro c hc
    obtain ⟨d, small, rfl⟩ := h.2 c hc
    have plain := Text.isPlain_digitChar small
    exact ⟨plain.notSigma, plain.lowerOf⟩
  exact (SpelledAs.refl (.of_digits h.2)).normalizeId_eq_lower.trans lower

/-- The parts of a text in hexadecimal are in hexadecimal, if they are not empty. -/
theorem isHexId_append_iff {a b : Text} (ha : a ≠ []) (hb : b ≠ []) :
    IsHexId (a ++ b) ↔ IsHexId a ∧ IsHexId b := by
  constructor
  · rintro ⟨-, each⟩
    obtain ⟨front, back⟩ := List.forall_mem_append.1 each
    exact ⟨⟨ha, front⟩, ⟨hb, back⟩⟩
  · rintro ⟨⟨-, front⟩, ⟨-, back⟩⟩
    exact ⟨List.append_ne_nil_of_left_ne_nil ha b, List.forall_mem_append.2 ⟨front, back⟩⟩

namespace Context
variable {lines : List Text} {e : DatabaseEntry}

theorem mem_entries_iff : e ∈ initial.entries lines ↔
    ∃ before line after, lines = before ++ line :: after ∧ Adds before line e := by
  induction lines using List.reverseRecOn with
  | nil => simp
  | append_singleton lines last ih =>
    have added : ((initial.after lines).advance last).2 = some e ↔ Adds lines last e :=
      (situated_after lines).entry_iff
    rw [entries_append, List.mem_append, ih, entries_cons, entries_nil, List.append_nil,
      Option.mem_toList, added]
    constructor
    · rintro (⟨before, line, after, rfl, adds⟩ | adds)
      · exact ⟨before, line, after ++ [last], by simp, adds⟩
      · exact ⟨lines, last, [], rfl, adds⟩
    · rintro ⟨before, line, after, split, adds⟩
      rcases List.eq_nil_or_concat after with rfl | ⟨after, x, rfl⟩
      · obtain ⟨rfl, same⟩ := List.append_inj' split rfl
        cases same
        exact .inr adds
      · rw [List.concat_eq_append, ← List.cons_append, ← List.append_assoc] at split
        obtain ⟨rfl, -⟩ := List.append_inj' split rfl
        exact .inl ⟨before, line, after, rfl, adds⟩

end Context

namespace Database

/-- A place whose keys are in their documented form. -/
def Place.IsHex : Place → Prop
  | .vendor v => IsHexId v
  | .device v d => IsHexId v ∧ IsHexId d
  | .subsystem key pair => IsHexPair key ∧ IsHexPair pair
  | .deviceClass c => IsHexId c
  | .subclass key => IsHexId key

/-- Tables whose keys are in their documented form. -/
structure HasHexKeys (db : Database) : Prop where
  vendors : ∀ v ∈ db.vendors.keys, IsHexId v
  devices : ∀ v devices, db.devices.get? v = some devices →
    IsHexId v ∧ ∀ d ∈ devices.keys, IsHexId d
  subsystems : ∀ key pairs, db.subsystems.get? key = some pairs →
    IsHexPair key ∧ ∀ pair ∈ pairs.keys, IsHexPair pair
  classes : ∀ c ∈ db.classes.keys, IsHexId c
  subclasses : ∀ key ∈ db.subclasses.keys, IsHexId key

theorem hasHexKeys_iff {db : Database} (regular : db.IsRegular) :
    db.HasHexKeys ↔ ∀ p, db.Has p → p.IsHex := by
  constructor
  · intro h p here
    cases p with
    | vendor v => exact h.vendors v (has_vendor_iff.1 here)
    | device v d =>
      obtain ⟨devices, found, hd⟩ := has_device_iff.1 here
      exact ⟨(h.devices v devices found).1, (h.devices v devices found).2 d hd⟩
    | subsystem key pair =>
      obtain ⟨pairs, found, hp⟩ := has_subsystem_iff.1 here
      exact ⟨(h.subsystems key pairs found).1, (h.subsystems key pairs found).2 pair hp⟩
    | deviceClass c => exact h.classes c (has_deviceClass_iff.1 here)
    | subclass key => exact h.subclasses key (has_subclass_iff.1 here)
  · intro h
    refine ⟨fun v hv => h _ (has_vendor_iff.2 hv), fun v devices found => ?_,
      fun key pairs found => ?_, fun c hc => h _ (has_deviceClass_iff.2 hc),
      fun key hk => h _ (has_subclass_iff.2 hk)⟩
    -- The key of an inner table is in order since the table has a row.
    · have each : ∀ d ∈ devices.keys, IsHexId v ∧ IsHexId d :=
        fun d hd => h _ (has_device_iff.2 ⟨devices, found, hd⟩)
      obtain ⟨d, hd⟩ := Table.exists_mem_keys (regular.devices.2 v devices found).2
      exact ⟨(each d hd).1, fun d hd => (each d hd).2⟩
    · have each : ∀ pair ∈ pairs.keys, IsHexPair key ∧ IsHexPair pair :=
        fun pair hp => h _ (has_subsystem_iff.2 ⟨pairs, found, hp⟩)
      obtain ⟨pair, hp⟩ := Table.exists_mem_keys (regular.subsystems.2 key pairs found).2
      exact ⟨(each pair hp).1, fun pair hp => (each pair hp).2⟩

theorem has_insertAll {db : Database} {es : List DatabaseEntry} {p : Place} :
    (db.insertAll es).Has p ↔ (∃ e ∈ es, e.place = p) ∨ db.Has p := by
  induction es generalizing db with
  | nil => simp [insertAll]
  | cons e rest ih =>
    have step : db.insertAll (e :: rest) = (db.insert e).insertAll rest := rfl
    rw [step, ih, has_insert]
    simp only [List.mem_cons, exists_eq_or_imp]
    rw [or_left_comm, or_assoc]

theorem has_ofLines_iff {lines : List Text} {source : Option Text} {p : Place} :
    (ofLines lines source).Has p ↔ ∃ before line after e,
      lines.map Text.dropLineEnd = before ++ line :: after ∧ Adds before line e ∧ e.place = p := by
  have nothing : ¬ ({ empty with source := source } : Database).Has p := by
    rintro ⟨name, found⟩
    rw [name?_empty] at found
    cases found
  rw [ofLines_eq_insertAll, has_insertAll]
  simp only [nothing, or_false, Context.mem_entries_iff]
  constructor
  · rintro ⟨e, ⟨before, line, after, split, adds⟩, place⟩
    exact ⟨before, line, after, e, split, adds, place⟩
  · rintro ⟨before, line, after, e, split, adds, place⟩
    exact ⟨e, ⟨before, line, after, split, adds⟩, place⟩

end Database

section Lines
variable {before : List Text} {line : Text} {e : DatabaseEntry}

/-- What a line adds under keys in their documented form it declares with such an id. -/
theorem Adds.hasHexId (h : Adds before line e) (hex : e.place.IsHex) : HasHexId line := by
  have only {rank : LineRank} {d : Declaration} (here : LineDeclares line rank d)
      (ok : if rank = .indented 2 then IsHexPair (Context.subsystemKey d.id) else IsHexId d.id) :
      HasHexId line := by
    intro rank' d' also
    obtain ⟨rfl, rfl⟩ := here.unique also
    exact ok
  cases h with
  | vendor here => exact only here hex
  | deviceClass here => exact only here hex
  | device own above here => exact only here hex.2
  | subclass own above here =>
    exact only here ((isHexId_append_iff above.isKeyPart.1.some here.isKeyPart.1.some).1 hex).2
  | subsystem own above member of here => exact only here hex.2

/-- A line that starts a section adds an entry. -/
theorem adds_of_startsSection (before : List Text) (h : StartsSection line) :
    ∃ e, Adds before line e := by
  obtain ⟨d, here | here⟩ := h
  · exact ⟨_, .vendor here⟩
  · exact ⟨_, .deviceClass here⟩

/-- If the ids are in their documented form that stand in the lines which add something, so are the
keys under which a line adds something. -/
theorem Adds.isHex (h : Adds before line e) (here : HasHexId line)
    (each : ∀ front l rest, before = front ++ l :: rest → (∃ e, Adds front l e) → HasHexId l) :
    e.place.IsHex := by
  have owned {owner : Text} {between : List Text} {d : Declaration} {rank : LineRank}
      (own : Nearest StartsSection before owner between) (above : LineDeclares owner rank d)
      (other : rank ≠ .indented 2) : IsHexId d.id := by
    obtain ⟨⟨far, split⟩, starts, -⟩ := own
    have hex := each far owner between split (adds_of_startsSection far starts) rank d above
    rwa [if_neg other] at hex
  cases h with
  | vendor declares => exact here _ _ declares
  | deviceClass declares => exact here _ _ declares
  | device own above declares => exact ⟨owned own above nofun, here _ _ declares⟩
  | subclass own above declares =>
    exact (isHexId_append_iff above.isKeyPart.1.some declares.isKeyPart.1.some).2
      ⟨owned own above nofun, here _ _ declares⟩
  | subsystem own above member of declares =>
    refine ⟨⟨_, _, owned own above nofun, ?_, rfl⟩, here _ _ declares⟩
    obtain ⟨⟨far, rfl⟩, starts, apart⟩ := own
    obtain ⟨⟨far', rfl⟩, -, -⟩ := member
    -- Looked back at from the device, the vendor is the same.
    have nearer : Nearest StartsSection (far ++ _ :: far') _ far' :=
      ⟨⟨far, rfl⟩, starts, fun l hl => apart l (List.mem_append_left _ hl)⟩
    exact each _ _ _ (List.append_assoc far (_ :: far') _).symm ⟨_, .device nearer above of⟩ _ _ of

end Lines

namespace Database

/-- The keys of the tables are in their documented form exactly if, in every line that adds
something, the id is. An id in that form is looked up as it is. -/
theorem hasHexKeys_ofLines_iff (lines : List Text) (source : Option Text) :
    ((ofLines lines source).HasHexKeys ↔
      ∀ before line after, lines.map Text.dropLineEnd = before ++ line :: after →
        (∃ e, Adds before line e) → HasHexId line) ∧
    ∀ t, IsHexId t → normalizeId t = t := by
  refine ⟨?_, fun t => normalizeId_of_isHexId⟩
  rw [hasHexKeys_iff (isRegular_ofLines lines source)]
  constructor
  · rintro hex before line after split ⟨e, adds⟩
    exact adds.hasHexId (hex e.place (has_ofLines_iff.2 ⟨before, line, after, e, split, adds, rfl⟩))
  · intro each p here
    obtain ⟨before, line, after, e, split, adds, rfl⟩ := has_ofLines_iff.1 here
    refine adds.isHex (each before line after split ⟨e, adds⟩) fun front l rest nested added => ?_
    exact each front l (rest ++ line :: after) (by rw [split, nested]; simp) added

/-- An id with `0x` in front becomes a key as it is. -/
theorem not_hasHexKeys_marked :
    ¬ (ofLines ["0x8086  Intel Corporation".toList] none).HasHexKeys := by
  intro h
  have key : "0x8086".toList ∈
      (ofLines ["0x8086  Intel Corporation".toList] none).vendors.keys := by decide +kernel
  obtain ⟨d, small, mark⟩ := (h.vendors _ key).2 'x' (by decide)
  exact absurd mark.symm ((by decide : ∀ d < 16, Nat.digitChar d ≠ 'x') d small)

end Database

end PciInventory
