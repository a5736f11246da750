import PciInventory.Proofs.Database.Loading
import PciInventory.Proofs.Database.Meaning
import PciInventory.Proofs.FileTree.Opening

/-!
# The file that a database is taken from

Of some paths the first that opens as a file is read, and no other: what the file holds does not
matter, and nothing is taken from a file behind it. So the database is the same in every tree in
which the paths as far as that one open alike.

That a path does not open is no failure of its own, whatever the reason.
-/
namespace PciInventory

open FileTree

variable {tree : FileTree} {paths : List Text} {path : Text} {bytes : List UInt8}

namespace FileTree

/-- Of some paths none opens as a file. -/
def NoneOpens (tree : FileTree) (paths : List Text) : Prop :=
  ∀ p ∈ paths, ∀ bytes, ¬ tree.Opens p bytes

/-- Of some paths one is the first that opens as a file. -/
def FirstOpens (tree : FileTree) (paths : List Text) (path : Text) (bytes : List UInt8) : Prop :=
  ∃ before after, paths = before ++ path :: after ∧ tree.NoneOpens before ∧ tree.Opens path bytes

theorem firstOpens_or_noneOpens (tree : FileTree) (paths : List Text) :
    (∃ path bytes, tree.FirstOpens paths path bytes) ∨ tree.NoneOpens paths := by
  induction paths with
  | nil => exact .inr nofun
  | cons p rest ih =>
    by_cases opens : ∃ bytes, tree.Opens p bytes
    · obtain ⟨bytes, opens⟩ := opens
      exact .inl ⟨p, bytes, [], rest, rfl, nofun, opens⟩
    · have closed := not_exists.1 opens
      rcases ih with ⟨path, bytes, before, after, rfl, earlier, opens⟩ | none
      · exact .inl ⟨path, bytes, p :: before, after, rfl,
          List.forall_mem_cons.2 ⟨closed, earlier⟩, opens⟩
      · exact .inr (List.forall_mem_cons.2 ⟨closed, none⟩)

/-- Two trees open some paths alike, as far as the first that opens. -/
def OpenAlike (tree tree' : FileTree) (paths : List Text) : Prop :=
  ∀ before path after, paths = before ++ path :: after → tree.NoneOpens before →
    ∀ bytes, tree.Opens path bytes ↔ tree'.Opens path bytes

/-- Behind a path that opens it does not matter how paths open. -/
theorem OpenAlike.cons {tree' : FileTree} {p : Text} {rest : List Text}
    (here : tree.contentAt p = tree'.contentAt p)
    (later : (∀ bytes, ¬ tree.Opens p bytes) → tree.OpenAlike tree' rest) :
    tree.OpenAlike tree' (p :: rest) := by
  rintro (_ | ⟨q, before⟩) path after split closed bytes
  · cases split
    rw [← contentAt_eq_ok_iff, ← contentAt_eq_ok_iff, here]
  · cases split
    obtain ⟨none, closed⟩ := List.forall_mem_cons.1 closed
    exact later none before path after rfl closed bytes

/-- Where nothing opens, nothing opens in a tree that opens the paths alike. -/
theorem OpenAlike.noneOpens {tree' : FileTree} {before after : List Text}
    (alike : tree.OpenAlike tree' (before ++ after)) (closed : tree.NoneOpens before) :
    tree'.NoneOpens before := by
  intro p mem bytes opens
  obtain ⟨earlier, later, rfl⟩ := List.append_of_mem mem
  have none : tree.NoneOpens earlier := fun p h => closed p (List.mem_append_left _ h)
  have split : (earlier ++ p :: later) ++ after = earlier ++ p :: (later ++ after) := by simp
  exact closed p mem bytes ((alike earlier p _ split none bytes).2 opens)

/-- The first path that opens does so in a tree that opens the paths alike. -/
theorem OpenAlike.firstOpens {tree' : FileTree} (alike : tree.OpenAlike tree' paths)
    (first : tree.FirstOpens paths path bytes) : tree'.FirstOpens paths path bytes := by
  obtain ⟨before, after, rfl, closed, opens⟩ := first
  exact ⟨before, after, rfl, alike.noneOpens closed,
    (alike before path after rfl closed bytes).1 opens⟩

end FileTree

/-- Among paths that can be handed over, the first that opens is the first that leads to a file. -/
theorem FileTree.FirstOpens.firstFile (first : tree.FirstOpens paths path bytes)
    (passable : ∀ p ∈ paths, Path.isPassable p = true) : FirstFile tree paths path bytes := by
  obtain ⟨before, after, rfl, closed, opens⟩ := first
  refine ⟨⟨before, after, rfl, fun p earlier => ?_⟩, passable _ (by simp), opens.contentAt⟩
  obtain ⟨refusal, refuses⟩ := not_opens_iff.1 (closed p earlier)
  exact ⟨passable p (by simp [earlier]), refusal, refuses.contentAt⟩

namespace Database

theorem load_of_noneOpens (passable : ∀ p ∈ paths, Path.isPassable p = true)
    (closed : tree.NoneOpens paths) : (load tree paths).result = .ok empty := by
  have passed (all : List Text) : (loadFrom tree all paths).result = .ok empty := by
    induction paths with
    | nil => rfl
    | cons p rest ih =>
      obtain ⟨here, passable⟩ := List.forall_mem_cons.1 passable
      obtain ⟨none, closed⟩ := List.forall_mem_cons.1 closed
      obtain ⟨refusal, refuses⟩ := not_opens_iff.1 none
      simp [loadFrom, here, refuses.contentAt, ih passable closed]
  exact passed paths

theorem load_of_firstOpens (passable : ∀ p ∈ paths, Path.isPassable p = true)
    (first : tree.FirstOpens paths path bytes) :
    (load tree paths).result = .ok (ofBytes bytes (some path)) :=
  load_of_firstFile (first.firstFile passable)

theorem load_congr_of_openAlike {tree' : FileTree}
    (passable : ∀ p ∈ paths, Path.isPassable p = true) (alike : tree.OpenAlike tree' paths) :
    (load tree' paths).result = (load tree paths).result := by
  rcases firstOpens_or_noneOpens tree paths with ⟨path, bytes, first⟩ | closed
  · rw [load_of_firstOpens passable first, load_of_firstOpens passable (alike.firstOpens first)]
  · have closed' : tree'.NoneOpens paths := by
      rw [← List.append_nil paths] at alike
      exact alike.noneOpens closed
    rw [load_of_noneOpens passable closed, load_of_noneOpens passable closed']

theorem source_ofBytes (bytes : List UInt8) (source : Option Text) :
    (ofBytes bytes source).source = source := by
  rw [ofBytes, ofLines_source _ source none]

/-- The first path that opens gives the whole database, and no other path gives any of it. -/
theorem load_first_that_opens (passable : ∀ p ∈ paths, Path.isPassable p = true) :
    (∃ db, (load tree paths).result = .ok db) ∧
    (∀ p, (∃ bytes, tree.Opens p bytes) ↔ ¬ ∃ refusal, tree.Refuses p refusal) ∧
    ((∃ path bytes, tree.FirstOpens paths path bytes) ↔ ∃ p ∈ paths, ∃ bytes, tree.Opens p bytes) ∧
    (∀ path bytes, tree.FirstOpens paths path bytes →
      ∃ db, (load tree paths).result = .ok db ∧ db.source = some path ∧
        db = ofLines (Text.lines (Text.Utf8.decodeLenient bytes)) (some path)) ∧
    (tree.NoneOpens paths → (load tree paths).result = .ok empty) ∧
    (∀ tree', tree.OpenAlike tree' paths →
      (load tree' paths).result = (load tree paths).result) ∧
    ∀ db place name, (load tree paths).result = .ok db → db.name? place = some name →
      ∃ path ∈ paths, ∃ bytes, db.source = some path ∧ tree.Opens path bytes ∧ LastAdded
        ((Text.lines (Text.Utf8.decodeLenient bytes)).map Text.dropLineEnd) place name := by
  have found := firstOpens_or_noneOpens tree paths
  refine ⟨?_, ?_, ?_, ?_, load_of_noneOpens passable,
    fun tree' => load_congr_of_openAlike passable, ?_⟩
  · rcases found with ⟨path, bytes, first⟩ | closed
    · exact ⟨_, load_of_firstOpens passable first⟩
    · exact ⟨_, load_of_noneOpens passable closed⟩
  · intro p
    rw [← not_opens_iff, not_forall_not]
  · constructor
    · rintro ⟨path, bytes, before, after, rfl, -, opens⟩
      exact ⟨path, by simp, bytes, opens⟩
    · rintro ⟨p, mem, bytes, opens⟩
      exact found.resolve_right fun closed => closed p mem bytes opens
  · intro path bytes first
    exact ⟨_, load_of_firstOpens passable first, source_ofBytes bytes _, rfl⟩
  · intro db place name loaded named
    rcases found with ⟨path, bytes, first⟩ | closed
    · rw [load_of_firstOpens passable first] at loaded
      cases loaded
      obtain ⟨before, after, rfl, -, opens⟩ := first
      exact ⟨path, by simp, bytes, source_ofBytes bytes _, opens, name?_ofLines_iff.1 named⟩
    -- The empty database has no name that could come from anywhere.
    · rw [load_of_noneOpens passable closed] at loaded
      cases loaded
      cases place <;> cases named

/-- A damaged file is taken, with the mark for the damage in the name that it gives, although there
is a whole one behind it. In front of it are a path to nothing, one to a directory, one through a
file and a name that is too long. -/
theorem load_first_that_opens_damaged :
    let damaged := Text.Utf8.encode "8086  In".toList ++ 0xff :: Text.Utf8.encode "tel\n".toList
    let whole := (oneFile damaged).put [['r']] (.file (Text.Utf8.encode "8086  Intel".toList))
    let long := List.replicate 256 'n'
    let paths := [['q'], ['.'], ['p', '/', 'x'], long, ['p'], ['r']]
    (∀ p ∈ paths, Path.isPassable p = true) ∧
    (whole.Refuses ['q'] .notFound ∧ whole.Refuses ['.'] .isADirectory ∧
      whole.Refuses ['p', '/', 'x'] .notADirectory ∧ whole.Refuses long .nameTooLong) ∧
    whole.FirstOpens paths ['p'] damaged ∧
    (∃ db, (load whole paths).result = .ok db ∧ db.source = some ['p'] ∧
      db.name? (.vendor "8086".toList) = some "In\uFFFDtel".toList) ∧
    whole.OpenAlike (oneFile damaged) paths ∧
    (load (oneFile damaged) paths).result = (load whole paths).result := by
  intro damaged whole long paths
  have passable : ∀ p ∈ paths, Path.isPassable p = true := by decide
  have missing : whole.Refuses ['q'] .notFound := contentAt_eq_error_iff.1 rfl
  have directory : whole.Refuses ['.'] .isADirectory := contentAt_eq_error_iff.1 rfl
  have through : whole.Refuses ['p', '/', 'x'] .notADirectory := contentAt_eq_error_iff.1 rfl
  have tooLong : whole.Refuses long .nameTooLong := contentAt_eq_error_iff.1 (by decide +kernel)
  have opens : whole.Opens ['p'] damaged := contentAt_eq_ok_iff.1 rfl
  have first : whole.FirstOpens paths ['p'] damaged := by
    refine ⟨[['q'], ['.'], ['p', '/', 'x'], long], [['r']], rfl, ?_, opens⟩
    simp only [NoneOpens, List.forall_mem_cons, not_opens_iff]
    exact ⟨⟨_, missing⟩, ⟨_, directory⟩, ⟨_, through⟩, ⟨_, tooLong⟩, nofun⟩
  have alike : whole.OpenAlike (oneFile damaged) paths := by
    refine .cons rfl fun _ => .cons rfl fun _ => .cons rfl fun _ =>
      .cons (by decide +kernel) fun _ => .cons rfl fun closed => ?_
    exact absurd opens (closed damaged)
  obtain ⟨-, -, -, taken, -, same, -⟩ := load_first_that_opens passable
  obtain ⟨db, loaded, source, parsed⟩ := taken ['p'] damaged first
  have named : db.name? (.vendor "8086".toList) = some "In\uFFFDtel".toList := by
    rw [parsed]
    decide +kernel
  exact ⟨passable, ⟨missing, directory, through, tooLong⟩, first, ⟨db, loaded, source, named⟩, alike,
    same _ alike⟩

end Database

end PciInventory
