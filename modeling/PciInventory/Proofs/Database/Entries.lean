import PciInventory.Database.Reader

/-!
# Entries of a database

Each entry names one place: a table and a key of it, or a pair of keys where the table holds tables.
Inserting an entry decides the name at its own place and at no other, so of several entries with one
place the last one gives the name. No table gets a key twice, and no inner table is left empty.
Reading lines is inserting the entries that they add, each in the context that the lines before it
leave.
-/
namespace PciInventory

/-- A place for a name: a table of a database, and the key or the pair of keys in it. -/
inductive Database.Place where
  | vendor (id : Text)
  | device (vendor id : Text)
  | subsystem (device pair : Text)
  | deviceClass (id : Text)
  | subclass (id : Text)
  deriving DecidableEq

namespace DatabaseEntry

def place : DatabaseEntry → Database.Place
  | .vendor id _ => .vendor id
  | .device owner id _ => .device owner id
  | .subsystem owner pair _ => .subsystem owner pair
  | .deviceClass id _ => .deviceClass id
  | .subclass id _ => .subclass id

def name : DatabaseEntry → Text
  | .vendor _ name => name
  | .device _ _ name => name
  | .subsystem _ _ name => name
  | .deviceClass _ name => name
  | .subclass _ name => name

end DatabaseEntry

/-- The entry that gives a name to a place. -/
def Database.Place.entry (p : Database.Place) (name : Text) : DatabaseEntry :=
  match p with
  | .vendor id => .vendor id name
  | .device owner id => .device owner id name
  | .subsystem owner pair => .subsystem owner pair name
  | .deviceClass id => .deviceClass id name
  | .subclass id => .subclass id name

theorem DatabaseEntry.eq_entry_iff {e : DatabaseEntry} {p : Database.Place} {name : Text} :
    e = p.entry name ↔ e.place = p ∧ e.name = name := by
  cases e <;> cases p <;>
    simp [Database.Place.entry, DatabaseEntry.place, DatabaseEntry.name, and_assoc]

namespace Database

/-- The name at a place. -/
def name? (db : Database) : Place → Option Text
  | .vendor id => db.vendors.get? id
  | .device vendor id => nested? db.devices vendor id
  | .subsystem device pair => nested? db.subsystems device pair
  | .deviceClass id => db.classes.get? id
  | .subclass id => db.subclasses.get? id

theorem name?_insert (db : Database) (e : DatabaseEntry) (p : Place) :
    (db.insert e).name? p = if e.place = p then some e.name else db.name? p := by
  cases e <;> cases p <;>
    simp [insert, name?, DatabaseEntry.place, DatabaseEntry.name, Table.get?_insert,
      nested?_insertNested]

/-- A database with some more entries, each in its turn. -/
def insertAll (db : Database) (es : List DatabaseEntry) : Database := es.foldl insert db

theorem insertAll_append (db : Database) (es fs : List DatabaseEntry) :
    db.insertAll (es ++ fs) = (db.insertAll es).insertAll fs := List.foldl_append

/-- The name at a place that some entries leave: each of them has it or none of them names the
place. -/
theorem name?_insertAll_cases (db : Database) (es : List DatabaseEntry) (p : Place) :
    (∃ e ∈ es, e.place = p ∧ (db.insertAll es).name? p = some e.name) ∨
      ((∀ e ∈ es, e.place ≠ p) ∧ (db.insertAll es).name? p = db.name? p) := by
  induction es generalizing db with
  | nil => exact Or.inr ⟨fun _ h => absurd h List.not_mem_nil, rfl⟩
  | cons e rest ih =>
    rcases ih (db.insert e) with ⟨f, hf, hp, hn⟩ | ⟨others, hn⟩
    · exact Or.inl ⟨f, List.mem_cons_of_mem e hf, hp, hn⟩
    · have here : (db.insertAll (e :: rest)).name? p =
          if e.place = p then some e.name else db.name? p := hn.trans (name?_insert db e p)
      by_cases h : e.place = p
      · exact Or.inl ⟨e, List.mem_cons_self, h, by rw [here, if_pos h]⟩
      · refine Or.inr ⟨?_, by rw [here, if_neg h]⟩
        intro f hf
        rcases List.mem_cons.1 hf with rfl | hf
        · exact h
        · exact others f hf

/-- Of entries that name each place at most once, the one of a place gives its name. -/
theorem name?_insertAll_iff {db : Database} {es : List DatabaseEntry} {p : Place} {n : Text}
    (fresh : db.name? p = none) (unique : ∀ e ∈ es, ∀ e' ∈ es, e.place = e'.place → e = e') :
    (db.insertAll es).name? p = some n ↔ p.entry n ∈ es := by
  have here : (p.entry n).place = p ∧ (p.entry n).name = n := DatabaseEntry.eq_entry_iff.1 rfl
  rcases name?_insertAll_cases db es p with ⟨e, he, hp, found⟩ | ⟨others, none⟩
  · rw [found, Option.some.injEq]
    constructor
    · intro hn
      rw [← DatabaseEntry.eq_entry_iff.2 ⟨hp, hn⟩]
      exact he
    · intro hat
      rw [unique e he _ hat (hp.trans here.1.symm), here.2]
  · rw [none, fresh]
    constructor
    · exact nofun
    · intro hat
      exact absurd here.1 (others _ hat)

theorem name?_empty (source : Option Text) (p : Place) :
    ({ empty with source := source } : Database).name? p = none := by
  cases p <;> rfl

end Database

/-- A table that has a row for each key and value of a rule, no other row, and no key twice. -/
def Table.Tabulates (t : Table Text Text) (rule : Text → Text → Prop) : Prop :=
  t.keys.Nodup ∧ ∀ key name, t.get? key = some name ↔ rule key name

namespace Database

/-- A table of tables that has no key twice and no table without rows. -/
def IsRegularNested (t : Table Text (Table Text Text)) : Prop :=
  t.keys.Nodup ∧
  ∀ outer inner, t.get? outer = some inner → inner.keys.Nodup ∧ inner.isEmpty = false

/-- A table of tables that has a row for each pair of keys and value of a rule, and no other row. -/
def TabulatesPairs (t : Table Text (Table Text Text)) (rule : Text → Text → Text → Prop) : Prop :=
  IsRegularNested t ∧
  ∀ outer inner name, nested? t outer inner = some name ↔ rule outer inner name

/-- A database in which no key stands twice and no inner table is without rows. -/
structure IsRegular (db : Database) : Prop where
  vendors : db.vendors.keys.Nodup
  devices : IsRegularNested db.devices
  subsystems : IsRegularNested db.subsystems
  classes : db.classes.keys.Nodup
  subclasses : db.subclasses.keys.Nodup

theorem isEmpty_insert (t : Table Text Text) (key name : Text) :
    (t.insert key name).isEmpty = false := by
  have here : (t.insert key name).get? key = some name := by simp [Table.get?_insert]
  cases h : (t.insert key name).newestFirst with
  | nil => simp [Table.get?, h] at here
  | cons row rest => simp [Table.isEmpty, h]

theorem IsRegularNested.insertNested {t : Table Text (Table Text Text)} (h : IsRegularNested t)
    (outer inner name : Text) : IsRegularNested (Database.insertNested t outer inner name) := by
  refine ⟨Table.nodup_keys_insert h.1 _ _, ?_⟩
  intro outer' table found
  rw [Database.insertNested, Table.get?_insert] at found
  split at found
  · cases found
    refine ⟨Table.nodup_keys_insert ?_ _ _, isEmpty_insert _ _ _⟩
    cases before : t.get? outer with
    | none => exact List.nodup_nil
    | some table => exact (h.2 outer table before).1
  · exact h.2 outer' table found

theorem IsRegular.insert {db : Database} (h : db.IsRegular) (e : DatabaseEntry) :
    (db.insert e).IsRegular := by
  cases e with
  | vendor id name => exact { h with vendors := Table.nodup_keys_insert h.vendors id name }
  | device vendor id name => exact { h with devices := h.devices.insertNested vendor id name }
  | subsystem device pair name =>
    exact { h with subsystems := h.subsystems.insertNested device pair name }
  | deviceClass id name => exact { h with classes := Table.nodup_keys_insert h.classes id name }
  | subclass id name => exact { h with subclasses := Table.nodup_keys_insert h.subclasses id name }

theorem IsRegular.insertAll {db : Database} (h : db.IsRegular) (es : List DatabaseEntry) :
    (db.insertAll es).IsRegular := by
  induction es generalizing db with
  | nil => exact h
  | cons e rest ih => exact ih (h.insert e)

theorem isRegular_empty (source : Option Text) :
    ({ empty with source := source } : Database).IsRegular := by
  have none : IsRegularNested (Table.empty : Table Text (Table Text Text)) :=
    ⟨List.nodup_nil, fun _ _ h => nomatch h⟩
  exact ⟨List.nodup_nil, none, none, List.nodup_nil, List.nodup_nil⟩

end Database

namespace Context

/-- The context after some lines. -/
def after (ctx : Context) (lines : List Text) : Context :=
  lines.foldl (fun ctx line => (ctx.advance line).1) ctx

def entries (ctx : Context) (lines : List Text) : List DatabaseEntry :=
  (ctx.advanceAll lines).filterMap (·.2)

@[simp] theorem after_nil (ctx : Context) : ctx.after [] = ctx := rfl

@[simp] theorem after_cons (ctx : Context) (line : Text) (rest : List Text) :
    ctx.after (line :: rest) = (ctx.advance line).1.after rest := rfl

theorem after_append (ctx : Context) (as bs : List Text) :
    ctx.after (as ++ bs) = (ctx.after as).after bs := List.foldl_append

@[simp] theorem entries_nil (ctx : Context) : ctx.entries [] = [] := rfl

@[simp] theorem entries_cons (ctx : Context) (line : Text) (rest : List Text) :
    ctx.entries (line :: rest) =
      (ctx.advance line).2.toList ++ (ctx.advance line).1.entries rest := by
  cases h : (ctx.advance line).2 <;> simp [entries, advanceAll, h]

theorem entries_append (ctx : Context) (as bs : List Text) :
    ctx.entries (as ++ bs) = ctx.entries as ++ (ctx.after as).entries bs := by
  induction as generalizing ctx with
  | nil => rfl
  | cons line rest ih => simp [ih]

end Context

namespace Database

theorem foldl_feed (lines : List Text) (db : Database) (ctx : Context) :
    lines.foldl Reading.feed ⟨db, ctx⟩ =
      ⟨db.insertAll (ctx.entries (lines.map Text.dropLineEnd)),
        ctx.after (lines.map Text.dropLineEnd)⟩ := by
  induction lines generalizing db ctx with
  | nil => rfl
  | cons line rest ih =>
    rw [List.foldl_cons, Reading.feed, ih, List.map_cons, Context.entries_cons,
      Context.after_cons, insertAll_append]
    cases (ctx.advance (Text.dropLineEnd line)).2 <;> rfl

/-- The database of some lines holds the entries that the lines add. -/
theorem ofLines_eq_insertAll (lines : List Text) (source : Option Text) :
    ofLines lines source = { empty with source := source }.insertAll
      (Context.initial.entries (lines.map Text.dropLineEnd)) := by
  rw [ofLines, foldl_feed]

theorem isRegular_ofLines (lines : List Text) (source : Option Text) :
    (ofLines lines source).IsRegular := by
  rw [ofLines_eq_insertAll]
  exact (isRegular_empty source).insertAll _

theorem source_insertAll (db : Database) (es : List DatabaseEntry) :
    (db.insertAll es).source = db.source := by
  induction es generalizing db with
  | nil => rfl
  | cons e rest ih =>
    have same : (db.insert e).source = db.source := by cases e <;> rfl
    exact (ih (db.insert e)).trans same

end Database

end PciInventory
