import PciInventory.Proofs.FileTree.Writing

/-!
# What a path opens

The names of a path are taken one by one from where it starts. A path opens as a file if every name
leads on and the last leads to a file. A path that does not open is refused, and that for one
reason: the first name that does not lead on gives it, or what the last name leads to.

These relations are about what is where in a tree, and following a path decides them.
-/
namespace PciInventory.FileTree
variable {tree : FileTree} {here next place : Location} {name path : Text} {names : List Text}
  {bytes : List UInt8} {refusal : Refusal}

/-- A name leads on from a directory: it stands for the directory itself or for the one above it, or
it is the name of something there. -/
inductive LeadsOn (tree : FileTree) (here : Location) : Text → Location → Prop where
  | stay {name : Text} (directory : tree.entry? here = some .directory)
      (same : name = [] ∨ name = ['.']) : LeadsOn tree here name here
  | up (directory : tree.entry? here = some .directory) :
      LeadsOn tree here ['.', '.'] here.dropLast
  | down {name : Text} {e : Entry} (directory : tree.entry? here = some .directory)
      (plain : isStanding name = false) (short : byteCount name ≤ nameLimit)
      (found : tree.entry? (here ++ [name]) = some e) : LeadsOn tree here name (here ++ [name])

/-- A name does not lead on, for a reason. -/
inductive Stops (tree : FileTree) (here : Location) (name : Text) : Refusal → Prop where
  | nowhere (nothing : tree.entry? here = none) : Stops tree here name .notFound
  | throughFile {content : List UInt8} (file : tree.entry? here = some (.file content)) :
      Stops tree here name .notADirectory
  | longName (directory : tree.entry? here = some .directory) (plain : isStanding name = false)
      (long : nameLimit < byteCount name) : Stops tree here name .nameTooLong
  | missing (directory : tree.entry? here = some .directory) (plain : isStanding name = false)
      (short : byteCount name ≤ nameLimit) (nothing : tree.entry? (here ++ [name]) = none) :
      Stops tree here name .notFound

theorem isStanding_eq_false_iff :
    isStanding name = false ↔ ¬ (name = [] ∨ name = ['.']) ∧ name ≠ ['.', '.'] := by
  simp [isStanding]

/-- A step goes where the name leads, or is refused where it does not lead on. -/
theorem step_cases (tree : FileTree) (here : Location) (name : Text) :
    (∃ next, tree.step here name = .ok next ∧ tree.LeadsOn here name next) ∨
      ∃ refusal, tree.step here name = .error refusal ∧ tree.Stops here name refusal := by
  unfold step
  split
  · rename_i directory
    split
    · exact .inl ⟨_, rfl, .stay directory ‹_›⟩
    · split
      · rename_i up
        subst up
        exact .inl ⟨_, rfl, .up directory⟩
      · have plain := isStanding_eq_false_iff.2 ⟨‹_›, ‹_›⟩
        split
        · exact .inr ⟨_, rfl, .longName directory plain ‹_›⟩
        · have short := Nat.le_of_not_lt ‹_›
          split
          · exact .inl ⟨_, rfl, .down directory plain short ‹_›⟩
          · exact .inr ⟨_, rfl, .missing directory plain short ‹_›⟩
  · exact .inr ⟨_, rfl, .throughFile ‹_›⟩
  · exact .inr ⟨_, rfl, .nowhere ‹_›⟩

theorem LeadsOn.step (h : tree.LeadsOn here name next) : tree.step here name = .ok next := by
  cases h with
  | stay directory same => simp only [FileTree.step, directory, if_pos same]
  | up directory => simp [FileTree.step, directory]
  | down directory plain short found => exact step_to_file directory plain short found

theorem Stops.step (h : tree.Stops here name refusal) :
    tree.step here name = .error refusal := by
  cases h with
  | nowhere nothing => simp only [FileTree.step, nothing]
  | throughFile file => simp only [FileTree.step, file]
  | longName directory plain long =>
    obtain ⟨other, up⟩ := isStanding_eq_false_iff.1 plain
    simp only [FileTree.step, directory, if_neg other, if_neg up, if_pos long]
  | missing directory plain short nothing =>
    obtain ⟨other, up⟩ := isStanding_eq_false_iff.1 plain
    simp only [FileTree.step, directory, if_neg other, if_neg up, if_neg (Nat.not_lt.2 short),
      nothing]

theorem step_eq_ok_iff : tree.step here name = .ok next ↔ tree.LeadsOn here name next := by
  refine ⟨fun h => ?_, LeadsOn.step⟩
  rcases step_cases tree here name with ⟨next', stepped, led⟩ | ⟨_, refused, -⟩
  · cases h.symm.trans stepped
    exact led
  · cases h.symm.trans refused

theorem LeadsOn.exists_entry (h : tree.LeadsOn here name next) :
    ∃ e, tree.entry? next = some e := by
  cases h with
  | stay directory same => exact ⟨_, directory⟩
  | up directory =>
    rcases List.eq_nil_or_concat' here with rfl | ⟨above, last, rfl⟩
    · exact ⟨_, directory⟩
    · have way : tree.top.IsDirectoryAt (above ++ [last]) := directory
      rw [List.dropLast_concat]
      exact ⟨_, way.of_append⟩
  | down directory plain short found => exact ⟨_, found⟩

/-- Some names lead on, each from where the one before it leads. -/
inductive Leads (tree : FileTree) : Location → List Text → Location → Prop where
  | nil (here : Location) : Leads tree here [] here
  | cons {here next place : Location} {name : Text} {rest : List Text}
      (on : tree.LeadsOn here name next) (further : Leads tree next rest place) :
      Leads tree here (name :: rest) place

theorem Leads.exists_entry (h : tree.Leads here names place) (filled : names ≠ []) :
    ∃ e, tree.entry? place = some e := by
  induction h with
  | nil here => exact absurd rfl filled
  | @cons here next place name rest on further ih =>
    cases further with
    | nil => exact on.exists_entry
    | cons => exact ih (List.cons_ne_nil _ _)

theorem follow_eq_ok_iff : tree.follow here names = .ok place ↔ tree.Leads here names place := by
  induction names generalizing here with
  | nil =>
    constructor
    · intro h
      cases h
      exact .nil _
    · intro h
      cases h
      rfl
  | cons name rest ih =>
    rw [follow_cons, except_bind_eq_ok]
    constructor
    · rintro ⟨next, stepped, followed⟩
      exact .cons (step_eq_ok_iff.1 stepped) (ih.1 followed)
    · intro h
      cases h with
      | cons on further => exact ⟨_, on.step, ih.2 further⟩

/-- Following some names is refused by the first that does not lead on. -/
theorem follow_eq_error_iff : tree.follow here names = .error refusal ↔
    ∃ lead name rest place, names = lead ++ name :: rest ∧ tree.Leads here lead place ∧
      tree.Stops place name refusal := by
  constructor
  · intro h
    induction names generalizing here with
    | nil => cases h
    | cons name rest ih =>
      rcases step_cases tree here name with ⟨next, stepped, on⟩ | ⟨refusal', refused, stops⟩
      · rw [follow_cons, stepped] at h
        obtain ⟨lead, name', rest', place, rfl, led, stops⟩ := ih h
        exact ⟨name :: lead, name', rest', place, rfl, .cons on led, stops⟩
      · rw [follow_cons, refused] at h
        cases h
        exact ⟨[], name, rest, here, rfl, .nil here, stops⟩
  · rintro ⟨lead, name, rest, place, rfl, led, stops⟩
    rw [follow_append, follow_eq_ok_iff.2 led]
    change tree.follow place (name :: rest) = _
    rw [follow_cons, stops.step]
    rfl

/-- A path opens as a file with some bytes. -/
structure Opens (tree : FileTree) (path : Text) (bytes : List UInt8) : Prop where
  filled : path ≠ []
  short : byteCount path ≤ pathLimit
  file : ∃ place, tree.Leads (tree.start path) (path.splitOn '/') place ∧
    tree.entry? place = some (.file bytes)

/-- A path does not open, for a reason. -/
inductive Refuses (tree : FileTree) (path : Text) : Refusal → Prop where
  | empty (empty : path = []) : Refuses tree path .notFound
  | longPath (long : pathLimit < byteCount path) : Refuses tree path .nameTooLong
  | stops {refusal : Refusal} {lead rest : List Text} {name : Text} {place : Location}
      (filled : path ≠ []) (short : byteCount path ≤ pathLimit)
      (names : path.splitOn '/' = lead ++ name :: rest)
      (led : tree.Leads (tree.start path) lead place) (stops : tree.Stops place name refusal) :
      Refuses tree path refusal
  | directory {place : Location} (filled : path ≠ []) (short : byteCount path ≤ pathLimit)
      (led : tree.Leads (tree.start path) (path.splitOn '/') place)
      (directory : tree.entry? place = some .directory) : Refuses tree path .isADirectory

theorem Opens.contentAt (h : tree.Opens path bytes) : tree.contentAt path = .ok bytes := by
  obtain ⟨filled, short, place, led, file⟩ := h
  rw [FileTree.contentAt, locate, if_neg filled, if_neg (Nat.not_lt.2 short),
    follow_eq_ok_iff.2 led]
  simp only [bind, Except.bind, file]

theorem Refuses.contentAt (h : tree.Refuses path refusal) :
    tree.contentAt path = .error refusal := by
  cases h with
  | empty empty =>
    rw [FileTree.contentAt, locate, if_pos empty]
    rfl
  | longPath long =>
    have filled : path ≠ [] := by
      rintro rfl
      exact absurd long (by decide)
    rw [FileTree.contentAt, locate, if_neg filled, if_pos long]
    rfl
  | stops filled short names led stops =>
    have refused := follow_eq_error_iff.2 ⟨_, _, _, _, names, led, stops⟩
    rw [FileTree.contentAt, locate, if_neg filled, if_neg (Nat.not_lt.2 short), refused]
    rfl
  | directory filled short led directory =>
    rw [FileTree.contentAt, locate, if_neg filled, if_neg (Nat.not_lt.2 short),
      follow_eq_ok_iff.2 led]
    simp only [bind, Except.bind, directory]

theorem opens_or_refuses (tree : FileTree) (path : Text) :
    (∃ bytes, tree.Opens path bytes) ∨ ∃ refusal, tree.Refuses path refusal := by
  by_cases filled : path = []
  · exact .inr ⟨_, .empty filled⟩
  by_cases long : pathLimit < byteCount path
  · exact .inr ⟨_, .longPath long⟩
  have short := Nat.le_of_not_lt long
  cases followed : tree.follow (tree.start path) (path.splitOn '/') with
  | error refusal =>
    obtain ⟨lead, name, rest, place, names, led, stops⟩ := follow_eq_error_iff.1 followed
    exact .inr ⟨_, .stops filled short names led stops⟩
  | ok place =>
    have led := follow_eq_ok_iff.1 followed
    obtain ⟨entry, found⟩ := led.exists_entry (List.splitOn_ne_nil '/' path)
    cases entry with
    | directory => exact .inr ⟨_, .directory filled short led found⟩
    | file bytes => exact .inl ⟨bytes, filled, short, place, led, found⟩

theorem contentAt_eq_ok_iff : tree.contentAt path = .ok bytes ↔ tree.Opens path bytes := by
  refine ⟨fun h => ?_, Opens.contentAt⟩
  rcases opens_or_refuses tree path with ⟨bytes', opens⟩ | ⟨refusal, refuses⟩
  · cases h.symm.trans opens.contentAt
    exact opens
  · cases h.symm.trans refuses.contentAt

/-- Reading is refused for the reason for which the path does not open. -/
theorem contentAt_eq_error_iff : tree.contentAt path = .error refusal ↔
    tree.Refuses path refusal := by
  refine ⟨fun h => ?_, Refuses.contentAt⟩
  rcases opens_or_refuses tree path with ⟨bytes, opens⟩ | ⟨refusal', refuses⟩
  · cases h.symm.trans opens.contentAt
  · cases h.symm.trans refuses.contentAt
    exact refuses

theorem not_opens_iff :
    (∀ bytes, ¬ tree.Opens path bytes) ↔ ∃ refusal, tree.Refuses path refusal := by
  constructor
  · intro closed
    exact (opens_or_refuses tree path).resolve_left fun ⟨bytes, opens⟩ => closed bytes opens
  · rintro ⟨refusal, refuses⟩ bytes opens
    cases opens.contentAt.symm.trans refuses.contentAt

end PciInventory.FileTree
