import PciInventory.Proofs.Database.LineParts
import PciInventory.Proofs.Database.Loading
import PciInventory.Proofs.Database.Meaning
import PciInventory.Proofs.Table.Overlay

/-!
# Databases with a damaged name

The bytes behind the first two spaces of a line are a name and nothing else. Whatever stands in
their place, in UTF-8 or not, the line declares what it declared, in the same rank and under the same
id, and leaves the same context. So the tables keep all their keys, and all names but the one that
the line itself declares.

Nothing is said here of bytes in front of the two spaces, or of damage that has a line end in it.
-/
namespace PciInventory

section Renaming
variable {line line' front name name' : Text} {rank : LineRank} {d : Declaration}

/-- Two lines with the same text in front of their first gaps declare the same id. -/
theorem LineDeclares.renamed (h : LineDeclares line rank d)
    (gap : Declaration.SplitsAtGap line front name)
    (gap' : Declaration.SplitsAtGap line' front name') :
    LineDeclares line' rank ⟨d.id, Text.strip name'⟩ := by
  obtain ⟨id, behind, split, visible, admits, rfl⟩ := h.splitsAtGap
  obtain ⟨rfl, rfl⟩ := gap.unique split
  exact lineDeclares_of_splitsAtGap gap' visible admits

namespace Context

/-- A name does not bear on the next context, nor on the place of the entry. -/
theorem respond_renamed (ctx : Context) (rank : LineRank) (id name name' : Text) :
    (ctx.respond rank ⟨id, name⟩).1 = (ctx.respond rank ⟨id, name'⟩).1 ∧
    (ctx.respond rank ⟨id, name⟩).2.map DatabaseEntry.place =
      (ctx.respond rank ⟨id, name'⟩).2.map DatabaseEntry.place := by
  unfold respond
  split <;> exact ⟨rfl, rfl⟩

/-- Two lines with the same text in front of their first gaps leave the same context, and add
entries at the same place or none. -/
theorem advance_renamed (gap : Declaration.SplitsAtGap line front name)
    (gap' : Declaration.SplitsAtGap line' front name') (ctx : Context) :
    (ctx.advance line).1 = (ctx.advance line').1 ∧
    (ctx.advance line).2.map DatabaseEntry.place =
      (ctx.advance line').2.map DatabaseEntry.place := by
  cases found : declared? line with
  | none =>
    have silent := declared?_eq_none_iff.1 found
    have silent' : ∀ rank d, ¬ LineDeclares line' rank d :=
      fun rank d here => silent rank _ (here.renamed gap' gap)
    rw [advance_of_silent silent, advance_of_silent silent']
    exact ⟨rfl, rfl⟩
  | some what =>
    obtain ⟨rank, d⟩ := what
    have here := declared?_eq_some_iff.1 found
    rw [advance_of_declares here, advance_of_declares (here.renamed gap gap')]
    exact ctx.respond_renamed rank d.id d.name _

end Context

end Renaming

namespace Database

/-- Two tables of tables with the same keys. -/
structure SameNestedKeys (t t' : Table Text (Table Text Text)) : Prop where
  outer : t.keys = t'.keys
  inner : ∀ k, ((t.get? k).getD .empty).keys = ((t'.get? k).getD .empty).keys

/-- Two databases with the same keys in all tables. -/
structure SameKeys (db db' : Database) : Prop where
  vendors : db.vendors.keys = db'.vendors.keys
  devices : SameNestedKeys db.devices db'.devices
  subsystems : SameNestedKeys db.subsystems db'.subsystems
  classes : db.classes.keys = db'.classes.keys
  subclasses : db.subclasses.keys = db'.subclasses.keys

/-- Two databases with the same keys, and with the same name at each place but some. -/
structure AgreeBut (places : Place → Prop) (db db' : Database) : Prop where
  keys : db.SameKeys db'
  names : ∀ p, ¬ places p → db.name? p = db'.name? p

section Agreement
variable {db db' : Database} {places : Place → Prop}

theorem SameNestedKeys.insertNested {t t' : Table Text (Table Text Text)} (h : SameNestedKeys t t')
    (outer inner name name' : Text) : SameNestedKeys (Database.insertNested t outer inner name)
      (Database.insertNested t' outer inner name') := by
  refine ⟨Table.keys_insert_congr h.outer outer _ _, fun k => ?_⟩
  rw [Database.insertNested, Database.insertNested, Table.get?_insert, Table.get?_insert]
  by_cases here : outer = k
  · rw [if_pos here, if_pos here]
    exact Table.keys_insert_congr (h.inner outer) inner name name'
  · rw [if_neg here, if_neg here]
    exact h.inner k

theorem SameKeys.insert (h : db.SameKeys db') {e e' : DatabaseEntry} (same : e.place = e'.place) :
    (db.insert e).SameKeys (db'.insert e') := by
  obtain ⟨name', rfl⟩ : ∃ name', e' = e.place.entry name' :=
    ⟨e'.name, DatabaseEntry.eq_entry_iff.2 ⟨same.symm, rfl⟩⟩
  cases e with
  | vendor id name => exact { h with vendors := Table.keys_insert_congr h.vendors id name _ }
  | device vendor id name =>
    exact { h with devices := h.devices.insertNested vendor id name _ }
  | subsystem device pair name =>
    exact { h with subsystems := h.subsystems.insertNested device pair name _ }
  | deviceClass id name => exact { h with classes := Table.keys_insert_congr h.classes id name _ }
  | subclass id name =>
    exact { h with subclasses := Table.keys_insert_congr h.subclasses id name _ }

theorem AgreeBut.insert (h : AgreeBut places db db') {e e' : DatabaseEntry}
    (same : e.place = e'.place) (named : e.name = e'.name ∨ places e.place) :
    AgreeBut places (db.insert e) (db'.insert e') := by
  refine ⟨h.keys.insert same, fun p other => ?_⟩
  rw [name?_insert, name?_insert, same]
  by_cases here : e'.place = p
  · have kept : e.name = e'.name := named.resolve_right (by rwa [same, here])
    rw [if_pos here, if_pos here, kept]
  · rw [if_neg here, if_neg here]
    exact h.names p other

theorem AgreeBut.insertAll (h : AgreeBut places db db') (es : List DatabaseEntry) :
    AgreeBut places (db.insertAll es) (db'.insertAll es) := by
  induction es generalizing db db' with
  | nil => exact h
  | cons e rest ih => exact ih (h.insert rfl (.inl rfl))

theorem AgreeBut.refl (places : Place → Prop) (db : Database) : AgreeBut places db db :=
  ⟨⟨rfl, ⟨rfl, fun _ => rfl⟩, ⟨rfl, fun _ => rfl⟩, rfl, rfl⟩, fun _ _ => rfl⟩

end Agreement

end Database

/-- A place at which a line behind the lines `before` gives a name. -/
def NamesAt (before : List Text) (line : Text) (p : Database.Place) : Prop :=
  ∃ e, Adds before line e ∧ e.place = p

/-- A line gives a name at one place or at none. -/
theorem exists_namesAt (before : List Text) (line : Text) :
    ∃ key : Option Database.Place, ∀ p, key = some p ↔ NamesAt before line p := by
  have adds {e : DatabaseEntry} : _ = some e ↔ Adds before line e :=
    (Context.situated_after before).entry_iff
  refine ⟨((Context.initial.after before).advance line).2.map DatabaseEntry.place, fun p => ?_⟩
  simp only [Option.map_eq_some_iff, adds, NamesAt]

namespace Database

theorem agreeBut_ofLines {line line' front name name' : Text}
    (gap : Declaration.SplitsAtGap line front name)
    (gap' : Declaration.SplitsAtGap line' front name') (whole : Text.IsOneLine line)
    (whole' : Text.IsOneLine line') (before after : List Text) (source : Option Text) :
    AgreeBut (NamesAt (before.map Text.dropLineEnd) line)
      (ofLines (before ++ line :: after) source) (ofLines (before ++ line' :: after) source) := by
  have adds {e : DatabaseEntry} : _ = some e ↔ Adds (before.map Text.dropLineEnd) line e :=
    (Context.situated_after (before.map Text.dropLineEnd)).entry_iff
  obtain ⟨context, place⟩ := Context.advance_renamed gap gap'
    (Context.initial.after (before.map Text.dropLineEnd))
  simp only [ofLines_eq_insertAll, List.map_append, List.map_cons, Context.entries_append,
    Context.entries_cons, insertAll_append, Text.dropLineEnd_of_isOneLine whole,
    Text.dropLineEnd_of_isOneLine whole', context]
  refine AgreeBut.insertAll ?_ _
  have start := AgreeBut.refl (NamesAt (before.map Text.dropLineEnd) line)
    ({ empty with source := source }.insertAll
      (Context.initial.entries (before.map Text.dropLineEnd)))
  cases added : (Context.advance _ line).2 with
  | none =>
    rw [added, Option.map_none, eq_comm, Option.map_eq_none_iff] at place
    rw [place]
    exact start
  | some e =>
    rw [added, Option.map_some, eq_comm, Option.map_eq_some_iff] at place
    obtain ⟨e', added', same⟩ := place
    rw [added']
    exact start.insert same.symm (.inr ⟨e, adds.1 added, rfl⟩)

end Database

namespace Text.Utf8

/-- A byte that ends a line. -/
def EndsLine (b : UInt8) : Prop := b = 0x0D ∨ b = 0x0A

instance (b : UInt8) : Decidable (EndsLine b) := inferInstanceAs (Decidable (b = 0x0D ∨ b = 0x0A))

/-- The bytes of a line, with the bytes of a file before and after them. -/
structure IsLineBetween (before line after : List UInt8) : Prop where
  starts : ∀ b, before.getLast? = some b → EndsLine b
  filled : line ≠ []
  whole : ∀ b ∈ line, ¬ EndsLine b
  ended : ∀ b, after.head? = some b → EndsLine b

/-- Between `front` and `name` two spaces stand, and none stand so further in front. -/
def IsFirstGap (front name : List UInt8) : Prop :=
  ∀ front' rest, front ++ 0x20 :: 0x20 :: name = front' ++ 0x20 :: 0x20 :: rest →
    front.length ≤ front'.length

section Lines
variable {before line after front name name' : List UInt8} {b : UInt8}

theorem isFirstGap_of_not_mem (solid : 0x20 ∉ front) (name : List UInt8) :
    IsFirstGap front name := by
  intro front' rest same
  rcases parted_cases same solid with ⟨rfl, -⟩ | ⟨more, rfl, -⟩
  · exact Nat.le_refl _
  · rw [List.length_append]
    exact Nat.le_add_right _ _

theorem EndsLine.ascii (h : EndsLine b) : b.toNat < 0x80 := by
  rcases h with rfl | rfl <;> decide

theorem EndsLine.char (h : EndsLine b) :
    Char.ofNat b.toNat = '\r' ∨ Char.ofNat b.toNat = '\n' := by
  rcases h with rfl | rfl
  · exact .inl rfl
  · exact .inr rfl

theorem IsLineBetween.renamed (h : IsLineBetween before (front ++ 0x20 :: 0x20 :: name) after)
    (plain : ∀ b ∈ name', ¬ EndsLine b) :
    IsLineBetween before (front ++ 0x20 :: 0x20 :: name') after := by
  refine ⟨h.starts, by simp, ?_, h.ended⟩
  have whole := h.whole
  rw [List.forall_mem_append, List.forall_mem_cons, List.forall_mem_cons] at whole ⊢
  exact ⟨whole.1, whole.2.1, whole.2.2.1, plain⟩

/-- Bytes without line ends are read as a text without line ends. -/
theorem isOneLine_decodeLenient (whole : ∀ b ∈ line, ¬ EndsLine b) :
    IsOneLine (decodeLenient line) := by
  intro c hc
  constructor
  · rintro rfl
    exact whole _ (mem_of_mem_decodeLenient hc (by decide) (by decide)) (.inl rfl)
  · rintro rfl
    exact whole _ (mem_of_mem_decodeLenient hc (by decide) (by decide)) (.inr rfl)

/-- No character is read across the end of a line, so a line is read as it is read alone. -/
theorem lines_decodeLenient (h : IsLineBetween before line after) :
    lines (decodeLenient (before ++ line ++ after)) =
      lines (decodeLenient before) ++
        decodeLenient line :: (lines (decodeLenient after)).tail := by
  have whole := isOneLine_decodeLenient h.whole
  have filled : decodeLenient line ≠ [] := decodeLenient_eq_nil_iff.not.2 h.filled
  have starts : ∀ c, (decodeLenient before).getLast? = some c → c = '\r' ∨ c = '\n' := by
    rcases List.eq_nil_or_concat before with rfl | ⟨init, b, rfl⟩
    · exact nofun
    · rw [List.concat_eq_append] at h ⊢
      have ends := h.starts b List.getLast?_concat
      rw [decodeLenient_append_ascii init ends.ascii, decodeLenient_nil, List.getLast?_concat]
      rintro c ⟨⟩
      exact ends.char
  have ended : ∀ c, (decodeLenient after).head? = some c → c = '\r' ∨ c = '\n' := by
    cases after with
    | nil => exact nofun
    | cons b rest =>
      have ends := h.ended b rfl
      rw [decodeLenient_cons_ascii ends.ascii, List.head?_cons]
      rintro c ⟨⟩
      exact ends.char
  have noFeed : (decodeLenient line ++ decodeLenient after).head? ≠ some '\n' := by
    obtain ⟨c, rest, split⟩ := List.exists_cons_of_ne_nil filled
    rw [split] at whole ⊢
    simpa using (whole c List.mem_cons_self).2
  rw [List.append_assoc, decodeLenient_append (.inl fun b hb => (h.starts b hb).ascii),
    decodeLenient_append (.inr fun b hb => (h.ended b hb).ascii), lines_append starts noFeed,
    lines_append_of_isOneLine whole filled ended]

theorem decodeLenient_gap (front name : List UInt8) :
    decodeLenient (front ++ 0x20 :: 0x20 :: name) =
      decodeLenient front ++ ' ' :: ' ' :: decodeLenient name := by
  rw [decodeLenient_append_ascii front (by decide), decodeLenient_cons_ascii (by decide)]
  rfl

theorem splitsAtGap_decodeLenient (first : IsFirstGap front name) :
    Declaration.SplitsAtGap (decodeLenient (front ++ 0x20 :: 0x20 :: name)) (decodeLenient front)
      (decodeLenient name) := by
  refine ⟨decodeLenient_gap front name, fun f b split => ?_⟩
  obtain ⟨front', behind, whole, rfl, hb⟩ :=
    exists_of_decodeLenient_eq split (by decide) (by decide)
  have second : decodeLenient behind = [] ++ ' ' :: b := hb
  obtain ⟨none, name', rfl, nothing, rfl⟩ :=
    exists_of_decodeLenient_eq second (by decide) (by decide)
  obtain rfl := decodeLenient_eq_nil_iff.1 nothing
  have shorter : front.length ≤ front'.length := first front' name' whole
  -- The bytes in front of the other gap are those in front of the first, and perhaps some more.
  obtain ⟨more, rfl⟩ : front <+: front' :=
    List.prefix_of_prefix_length_le ⟨_, rfl⟩ ⟨_, whole.symm⟩ shorter
  rw [List.append_assoc, List.append_cancel_left_eq] at whole
  have ascii : ∀ b, more.head? = some b → b.toNat < 0x80 := by
    intro b hb
    obtain ⟨rest, rfl⟩ := List.head?_eq_some_iff.1 hb
    obtain ⟨rfl, -⟩ := List.cons.inj whole
    decide
  rw [decodeLenient_append (.inr ascii), List.length_append]
  exact Nat.le_add_right _ _

end Lines

end Text.Utf8

namespace Database
open Text.Utf8

/-- Other bytes in the place of a name, whatever they are but for line ends, leave all keys of the
tables and all names but the one that the line gives, which has one place or none. -/
theorem load_of_damagedName {tree tree' : FileTree} {paths : List Text} {path : Text}
    {before front name name' after : List UInt8}
    (line : IsLineBetween before (front ++ 0x20 :: 0x20 :: name) after)
    (first : IsFirstGap front name) (plain : ∀ b ∈ name', ¬ EndsLine b)
    (file : FirstFile tree paths path (before ++ (front ++ 0x20 :: 0x20 :: name) ++ after))
    (file' : FirstFile tree' paths path (before ++ (front ++ 0x20 :: 0x20 :: name') ++ after)) :
    ∃ db db', (load tree paths).result = .ok db ∧ (load tree' paths).result = .ok db' ∧
      db.SameKeys db' ∧
      ∃ key : Option Place,
        (∀ p, key = some p ↔ NamesAt (Text.lines (decodeLenient before))
          (decodeLenient (front ++ 0x20 :: 0x20 :: name)) p) ∧
        ∀ p, key ≠ some p → db.name? p = db'.name? p := by
  have line' := line.renamed plain
  have gap := splitsAtGap_decodeLenient first
  have gap' : Declaration.SplitsAtGap (decodeLenient (front ++ 0x20 :: 0x20 :: name'))
      (decodeLenient front) (decodeLenient name') := by
    rw [decodeLenient_gap] at gap ⊢
    exact gap.renamed _
  have agree := agreeBut_ofLines gap gap' (isOneLine_decodeLenient line.whole)
    (isOneLine_decodeLenient line'.whole) (Text.lines (decodeLenient before))
    (Text.lines (decodeLenient after)).tail (some path)
  rw [← lines_decodeLenient line, ← lines_decodeLenient line', Text.map_dropLineEnd_lines] at agree
  obtain ⟨key, at_key⟩ := exists_namesAt (Text.lines (decodeLenient before))
    (decodeLenient (front ++ 0x20 :: 0x20 :: name))
  refine ⟨_, _, load_of_firstFile file, load_of_firstFile file', agree.keys, key, at_key, ?_⟩
  intro p other
  exact agree.names p fun here => other ((at_key p).2 here)

/-- A file with a vendor and its device, and another vendor in front. -/
def vendorFile (name : List UInt8) : List UInt8 :=
  Text.Utf8.encode "10de  NVIDIA\r".toList ++
    (Text.Utf8.encode "8086".toList ++ 0x20 :: 0x20 :: name) ++
    Text.Utf8.encode "\n\t1237  440FX".toList

/-- A name that breaks off in a character of three bytes takes nothing of the next line with it. -/
theorem load_of_damagedName_truncated :
    ∃ db db',
      (load (oneFile (vendorFile (Text.Utf8.encode "Intel".toList))) [['q'], ['p']]).result =
        .ok db ∧
      (load (oneFile (vendorFile [0x49, 0xE2, 0x82])) [['q'], ['p']]).result = .ok db' ∧
      db.SameKeys db' ∧
      db.name? (.device "8086".toList "1237".toList) =
        db'.name? (.device "8086".toList "1237".toList) ∧
      db'.name? (.vendor "8086".toList) = some ['I', '\uFFFD'] := by
  have line : IsLineBetween (Text.Utf8.encode "10de  NVIDIA\r".toList)
      (Text.Utf8.encode "8086".toList ++ 0x20 :: 0x20 :: Text.Utf8.encode "Intel".toList)
      (Text.Utf8.encode "\n\t1237  440FX".toList) :=
    ⟨by decide +kernel, by decide +kernel, by decide +kernel, by decide +kernel⟩
  have first : IsFirstGap (Text.Utf8.encode "8086".toList) (Text.Utf8.encode "Intel".toList) :=
    isFirstGap_of_not_mem (by decide +kernel) _
  have plain : ∀ b ∈ ([0x49, 0xE2, 0x82] : List UInt8), ¬ EndsLine b := by decide +kernel
  have vendor : LineDeclares (decodeLenient (Text.Utf8.encode "8086".toList ++
      0x20 :: 0x20 :: Text.Utf8.encode "Intel".toList)) .vendor ⟨"8086".toList, "Intel".toList⟩ :=
    Context.declared?_eq_some_iff.1 (by decide +kernel)
  obtain ⟨db, db', loaded, loaded', keys, key, at_key, names⟩ :=
    load_of_damagedName line first plain (firstFile_oneFile _) (firstFile_oneFile _)
  refine ⟨db, db', loaded, loaded', keys, names _ fun here => ?_, ?_⟩
  · obtain ⟨e, added, place⟩ := (at_key _).1 here
    cases added with
    | device own above here => cases (here.unique vendor).1
    | vendor | deviceClass | subclass | subsystem => cases place
  · have read := load_of_firstFile (firstFile_oneFile (vendorFile [0x49, 0xE2, 0x82]))
    obtain rfl := Except.ok.inj (loaded'.symm.trans read)
    decide +kernel

end Database

end PciInventory
