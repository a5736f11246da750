import PciInventory.Database.Loader
import PciInventory.FileTree.Writing
import PciInventory.Proofs.Database.IdleLines
import PciInventory.Proofs.Text.Decoding
import PciInventory.Proofs.Text.LineEnds

/-!
# Loading a database from a file

The first path that leads to a file gives the database, whatever the bytes of the file. A database
is written in lines, and how its lines end does not matter, line for line: the file gives the tables
of the lines. Where a carriage return and a line feed come to stand side by side, a line without
anything in it is lost, and such a line adds nothing.

Nothing is said here of paths before the first that leads to a file, but that they lead to none.
-/
namespace PciInventory

/-- Of some paths one is the first that leads to a file, and the file holds `bytes`. -/
structure FirstFile (tree : FileTree) (paths : List Text) (path : Text) (bytes : List UInt8) :
    Prop where
  first : ∃ before after, paths = before ++ path :: after ∧ ∀ p ∈ before,
    Path.isPassable p = true ∧ ∃ refusal, tree.contentAt p = .error refusal
  passable : Path.isPassable path = true
  content : tree.contentAt path = .ok bytes

namespace Database

theorem load_of_firstFile {tree : FileTree} {paths : List Text} {path : Text} {bytes : List UInt8}
    (h : FirstFile tree paths path bytes) :
    (load tree paths).result = .ok (ofBytes bytes (some path)) := by
  have passed (all before after : List Text) (refused : ∀ p ∈ before,
      Path.isPassable p = true ∧ ∃ refusal, tree.contentAt p = .error refusal) :
      (loadFrom tree all (before ++ path :: after)).result = .ok (ofBytes bytes (some path)) := by
    induction before with
    | nil => simp [loadFrom, h.passable, h.content]
    | cons p rest ih =>
      obtain ⟨⟨passable, refusal, none⟩, later⟩ := List.forall_mem_cons.1 refused
      simp [loadFrom, passable, none, ih later]
  obtain ⟨before, after, rfl, refused⟩ := h.first
  exact passed _ before after refused

theorem ofLines_source (lines : List Text) (source source' : Option Text) :
    ofLines lines source = { ofLines lines source' with source := source } := by
  have apart (es : List DatabaseEntry) (db : Database) :
      { db with source := source }.insertAll es = { db.insertAll es with source := source } := by
    induction es generalizing db with
    | nil => rfl
    | cons e rest ih =>
      have one : { db with source := source }.insert e = { db.insert e with source := source } := by
        cases e <;> rfl
      rw [insertAll, List.foldl_cons, one]
      exact ih (db.insert e)
  rw [ofLines_eq_insertAll, ofLines_eq_insertAll, ← apart]

theorem ofLines_filter (lines : List Text) (source : Option Text) :
    ofLines (lines.filter (!·.isEmpty)) source = ofLines lines source := by
  refine ofLines_congr_of_idle ?_ source
  rw [List.filter_filter]
  refine List.filter_congr fun line _ => ?_
  cases line with
  | nil => decide
  | cons c rest => simp

end Database

namespace Text

/-- A text made of lines, each with a line end of its own; the last may be without one. -/
inductive Terminated : List Text → Text → Prop where
  | nothing : Terminated [] []
  | last (line : Text) : Terminated [line] line
  | feed (line : Text) {rest : List Text} {text : Text} (later : Terminated rest text) :
      Terminated (line :: rest) (line ++ '\n' :: text)
  | returnFeed (line : Text) {rest : List Text} {text : Text} (later : Terminated rest text) :
      Terminated (line :: rest) (line ++ '\r' :: '\n' :: text)
  | carriageReturn (line : Text) {rest : List Text} {text : Text} (later : Terminated rest text) :
      Terminated (line :: rest) (line ++ '\r' :: text)

theorem Terminated.filter_lines {ls : List Text} {text : Text} (h : Terminated ls text)
    (whole : ∀ line ∈ ls, IsOneLine line) :
    (lines text).filter (!·.isEmpty) = ls.filter (!·.isEmpty) := by
  induction h with
  | nothing => rfl
  | last line =>
    rw [lines_of_isOneLine (whole line List.mem_cons_self)]
    by_cases none : line = [] <;> simp [none]
  | feed line later ih =>
    obtain ⟨here, others⟩ := List.forall_mem_cons.1 whole
    rw [lines_append_feed here, List.filter_cons, List.filter_cons, ih others]
  | returnFeed line later ih =>
    obtain ⟨here, others⟩ := List.forall_mem_cons.1 whole
    rw [lines_append_return_feed here, List.filter_cons, List.filter_cons, ih others]
  | @carriageReturn line rest text later ih =>
    obtain ⟨here, others⟩ := List.forall_mem_cons.1 whole
    by_cases merged : text.head? = some '\n'
    -- The line behind has nothing in it and is lost: its line feed completes the line end.
    · obtain ⟨behind, rfl⟩ := List.head?_eq_some_iff.1 merged
      have empty : IsOneLine [] := nofun
      have lost : lines ('\n' :: behind) = [] :: lines behind := lines_append_feed empty behind
      have same := ih others
      rw [lost] at same
      rw [lines_append_return_feed here, List.filter_cons, List.filter_cons, ← same]
      rfl
    · rw [lines_append_return here merged, List.filter_cons, List.filter_cons, ih others]

end Text

namespace Database

/-- How the lines of a database end does not matter: neither in a file, line for line, nor if the
line ends are left at the lines. -/
theorem load_of_terminated {ls : List Text} (whole : ∀ line ∈ ls, Text.IsOneLine line)
    (source : Option Text) :
    (∀ text, Text.Terminated ls text → ∀ tree paths path,
      FirstFile tree paths path (Text.Utf8.encode text) →
      (load tree paths).result = .ok { ofLines ls source with source := some path }) ∧
    ∀ ls', List.Forall₂ (fun line line' => ∃ ending, (∀ c ∈ ending, c = '\r' ∨ c = '\n') ∧
      line' = line ++ ending) ls ls' → ofLines ls' source = ofLines ls source := by
  constructor
  · intro text made tree paths path file
    rw [load_of_firstFile file, ofBytes, Text.Utf8.decodeLenient_encode, ← ofLines_filter,
      made.filter_lines whole, ofLines_filter, ofLines_source ls (some path) source]
  · intro ls' kept
    have same : ls'.map Text.dropLineEnd = ls.map Text.dropLineEnd := by
      induction kept with
      | nil => rfl
      | cons here _ ih =>
        obtain ⟨ending, ends, rfl⟩ := here
        obtain ⟨line, others⟩ := List.forall_mem_cons.1 whole
        rw [List.map_cons, List.map_cons, Text.dropLineEnd_append line ends,
          Text.dropLineEnd_of_isOneLine line, ih others]
    rw [ofLines_eq_insertAll, ofLines_eq_insertAll, same]

/-- A vendor, a line without anything in it, and a device. -/
def spacedLines : List Text := ["8086  Intel".toList, [], "\t1237  440FX".toList]

/-- These lines with a carriage return, a line feed and a carriage return behind them. -/
def mergedText : Text := "8086  Intel\r\n\t1237  440FX\r".toList

/-- A tree whose one file holds some bytes. -/
def oneFile (bytes : List UInt8) : FileTree := (FileTree.empty []).put [['p']] (.file bytes)

theorem firstFile_oneFile (bytes : List UInt8) :
    FirstFile (oneFile bytes) [['q'], ['p']] ['p'] bytes := by
  have missing : (oneFile bytes).contentAt ['q'] = .error .notFound := by rfl
  exact ⟨⟨[['q']], [], rfl, by simpa using ⟨by rfl, _, missing⟩⟩, by rfl, by rfl⟩

/-- The file has one line less than the lines that it is made of, and is read like them. -/
theorem load_of_terminated_merged :
    Text.Terminated spacedLines mergedText ∧ Text.lines mergedText ≠ spacedLines ∧
    (load (oneFile (Text.Utf8.encode mergedText)) [['q'], ['p']]).result =
      .ok { ofLines spacedLines none with source := some ['p'] } ∧
    ofLines ["8086  Intel\r\n".toList, ['\n', '\r'], "\t1237  440FX".toList] none =
      ofLines spacedLines none := by
  have whole : ∀ line ∈ spacedLines, Text.IsOneLine line := by
    simp [spacedLines, Text.IsOneLine]
  have made : Text.Terminated spacedLines mergedText :=
    .carriageReturn "8086  Intel".toList
      (.feed [] (.carriageReturn "\t1237  440FX".toList .nothing))
  obtain ⟨loaded, kept⟩ := load_of_terminated whole none
  refine ⟨made, by decide +kernel, loaded mergedText made _ _ _ (firstFile_oneFile _), kept _ ?_⟩
  exact .cons ⟨['\r', '\n'], by simp, by rfl⟩ (.cons ⟨['\n', '\r'], by simp, by rfl⟩
    (.cons ⟨[], by simp, by rfl⟩ .nil))

end Database

end PciInventory
