import PciInventory.FileTree.Path
import PciInventory.Proofs.FileTree.Listing

/-!
# Where a path leads, in two trees

A path leads to the same location in every tree in which it leads anywhere, because the names in it
say how to go on and the tree only whether. A name that is joined to a path is one step more, and
what such a step comes to depends on two entries. So trees that are alike outside a location read
every file outside it alike, however the path to it is written.

The names that are joined are those that a directory can have.
-/
namespace PciInventory

namespace Path

/-- Whether a directory can have a name: it is not empty, it has no slash, and it is none of the two
names that stand for a directory which is already there. -/
def IsFileName (name : Text) : Prop :=
  name ≠ [] ∧ name ≠ ['.'] ∧ name ≠ ['.', '.'] ∧ '/' ∉ name

instance (name : Text) : Decidable (IsFileName name) := inferInstanceAs (Decidable (_ ∧ _))

theorem IsFileName.head? {name : Text} (h : IsFileName name) : name.head? ≠ some '/' := by
  intro slash
  exact h.2.2.2 (List.mem_of_head? slash)

theorem IsFileName.splitOn {name : Text} (h : IsFileName name) : name.splitOn '/' = [name] := by
  refine List.splitOnP_eq_singleton fun c hc => ?_
  have other : c ≠ '/' := fun slash => h.2.2.2 (slash ▸ hc)
  simpa using other

theorem join_cases {directory name : Text} (some : directory ≠ []) (h : IsFileName name) :
    join directory name = directory ++ '/' :: name ∨
      ∃ lead, directory = lead ++ ['/'] ∧ join directory name = lead ++ '/' :: name := by
  unfold join
  rw [if_neg h.head?]
  split
  · rename_i ends
    obtain ⟨lead, rfl⟩ := List.getLast?_eq_some_iff.1 (ends.resolve_left some)
    exact .inr ⟨lead, rfl, by simp⟩
  · exact .inl rfl

theorem join_ne_nil {directory name : Text} (some : directory ≠ []) (h : IsFileName name) :
    join directory name ≠ [] := by
  rcases join_cases some h with joined | ⟨lead, -, joined⟩
  · simp [joined]
  · simp [joined]

end Path

namespace FileTree
variable {tree tree' : FileTree} {here l l' : Location} {name path directory : Text}

open PciInventory.Path

theorem step_eq_ok (h : IsFileName name) (stepped : tree.step here name = .ok l) :
    l = here ++ [name] := by
  obtain ⟨some, dot, dots, -⟩ := h
  unfold step at stepped
  split at stepped
  · rw [if_neg (not_or.2 ⟨some, dot⟩), if_neg dots] at stepped
    split at stepped
    · cases stepped
    · split at stepped
      · cases stepped
        rfl
      · cases stepped
  · cases stepped
  · cases stepped

theorem step_congr (at_here : tree.entry? here = tree'.entry? here)
    (at_name : tree.entry? (here ++ [name]) = tree'.entry? (here ++ [name])) :
    tree.step here name = tree'.step here name := by
  unfold step
  rw [at_here, at_name]

/-- Steps that lead somewhere lead to one place, whatever the tree. -/
theorem step_unique (h : tree.step here name = .ok l) (h' : tree'.step here name = .ok l') :
    l = l' := by
  have place {t : FileTree} {l : Location} (h : t.step here name = .ok l) :
      l = if name = [] ∨ name = ['.'] then here
        else if name = ['.', '.'] then here.dropLast else here ++ [name] := by
    unfold step at h
    split at h
    · split at h
      · cases h
        rw [if_pos ‹_›]
      · rw [if_neg ‹_›]
        split at h
        · cases h
          rw [if_pos ‹_›]
        · rw [if_neg ‹_›]
          split at h
          · cases h
          · split at h
            · cases h
              rfl
            · cases h
    · cases h
    · cases h
  exact (place h).trans (place h').symm

theorem follow_cons (tree : FileTree) (here : Location) (name : Text) (rest : List Text) :
    tree.follow here (name :: rest) = tree.step here name >>= (tree.follow · rest) := rfl

theorem follow_append (tree : FileTree) (here : Location) (as bs : List Text) :
    tree.follow here (as ++ bs) = tree.follow here as >>= (tree.follow · bs) := List.foldlM_append

theorem follow_singleton (tree : FileTree) (here : Location) (name : Text) :
    tree.follow here [name] = tree.step here name := by
  rw [follow_cons]
  cases tree.step here name <;> rfl

theorem follow_unique {names : List Text} (h : tree.follow here names = .ok l)
    (h' : tree'.follow here names = .ok l') : l = l' := by
  induction names generalizing here with
  | nil =>
    cases h
    cases h'
    rfl
  | cons name rest ih =>
    obtain ⟨next, stepped, h⟩ := except_bind_eq_ok.1 h
    obtain ⟨next', stepped', h'⟩ := except_bind_eq_ok.1 h'
    cases step_unique stepped stepped'
    exact ih h h'

/-- A step that stays where it is asks nothing that the next step does not ask. -/
theorem step_nil_bind (tree : FileTree) (here : Location) (name : Text) :
    (tree.step here [] >>= (tree.step · name)) = tree.step here name := by
  cases found : tree.entry? here with
  | none => simp [step, found, bind, Except.bind]
  | some entry => cases entry <;> simp [step, found, bind, Except.bind]

theorem follow_join (some : directory ≠ []) (h : IsFileName name) :
    tree.follow here ((join directory name).splitOn '/') =
      tree.follow here (directory.splitOn '/') >>= (tree.step · name) := by
  rcases join_cases some h with joined | ⟨lead, rfl, joined⟩
  · rw [joined, List.splitOn_append_cons_self, h.splitOn, follow_append]
    simp only [follow_singleton]
  · have ended : (lead ++ ['/']).splitOn '/' = lead.splitOn '/' ++ [[]] :=
      List.splitOn_append_cons_self lead []
    rw [joined, List.splitOn_append_cons_self, h.splitOn, ended, follow_append, follow_append,
      bind_assoc]
    simp only [follow_singleton, step_nil_bind]

theorem start_append (some : path ≠ []) (more : Text) :
    tree.start (path ++ more) = tree.start path := by
  obtain ⟨c, rest, rfl⟩ := List.exists_cons_of_ne_nil some
  rw [List.cons_append]
  by_cases slash : c = '/'
  · subst slash
    rfl
  · simp [start, slash]

theorem start_join (some : directory ≠ []) (h : IsFileName name) :
    tree.start (join directory name) = tree.start directory := by
  rcases join_cases some h with joined | ⟨lead, rfl, joined⟩
  · rw [joined, start_append some]
  · rw [joined, List.append_cons, start_append some]

theorem locate_eq_ok (h : tree.locate path = .ok here) :
    path ≠ [] ∧ tree.follow (tree.start path) (path.splitOn '/') = .ok here := by
  unfold locate at h
  split at h
  · cases h
  · split at h
    · cases h
    · exact ⟨‹_›, h⟩

/-- A path that leads somewhere leads to one place in all trees with one working directory. -/
theorem locate_unique (working : tree.workingDirectory = tree'.workingDirectory)
    (h : tree.locate path = .ok l) (h' : tree'.locate path = .ok l') : l = l' := by
  have same : tree.start path = tree'.start path := by
    unfold start
    rw [working]
  have followed := (locate_eq_ok h).2
  rw [same] at followed
  exact follow_unique followed (locate_eq_ok h').2

/-- Where two names lead that are joined to a path. -/
theorem locate_join_join {first second : Text} (h : tree.locate path = .ok here)
    (hf : IsFileName first) (hs : IsFileName second) :
    tree.locate (join (join path first) second) =
      if pathLimit < byteCount (join (join path first) second) then .error .nameTooLong
      else tree.step here first >>= (tree.step · second) := by
  obtain ⟨some, followed⟩ := locate_eq_ok h
  have some' := join_ne_nil some hf
  rw [locate, if_neg (join_ne_nil some' hs), start_join some' hs, start_join some hf,
    follow_join some' hs, follow_join some hf, followed]
  rfl

theorem contentAt_congr (located : tree.locate path = tree'.locate path)
    (alike : ∀ l, tree.locate path = .ok l → tree.entry? l = tree'.entry? l) :
    tree.contentAt path = tree'.contentAt path := by
  unfold contentAt
  rw [← located]
  cases h : tree.locate path with
  | error refusal => rfl
  | ok l =>
    simp only [bind, Except.bind]
    rw [alike l h]

/-- What is read behind two names that are joined to a path depends on three entries. -/
theorem contentAt_join_join_congr {first second : Text} (h : tree.locate path = .ok here)
    (h' : tree'.locate path = .ok here) (hf : IsFileName first) (hs : IsFileName second)
    (alike : tree.entry? here = tree'.entry? here)
    (alike_first : tree.entry? (here ++ [first]) = tree'.entry? (here ++ [first]))
    (alike_second :
      tree.entry? (here ++ [first, second]) = tree'.entry? (here ++ [first, second])) :
    tree.contentAt (join (join path first) second) =
      tree'.contentAt (join (join path first) second) := by
  rw [List.append_cons] at alike_second
  have first_step : tree.step here first = tree'.step here first := step_congr alike alike_first
  have second_step : ∀ next, tree.step here first = .ok next →
      tree.step next second = tree'.step next second := by
    intro next stepped
    cases step_eq_ok hf stepped
    exact step_congr alike_first alike_second
  apply contentAt_congr
  · rw [locate_join_join h hf hs, locate_join_join h' hf hs, ← first_step]
    cases stepped : tree.step here first with
    | error refusal => rfl
    | ok next => exact if_congr Iff.rfl rfl (second_step next stepped)
  · intro l located
    rw [locate_join_join h hf hs] at located
    split at located
    · cases located
    · obtain ⟨next, stepped, located⟩ := except_bind_eq_ok.1 located
      cases step_eq_ok hf stepped
      cases step_eq_ok hs located
      exact alike_second

/-- Two trees with one working directory that differ at most at a location and below it. -/
structure AlikeOutside (tree tree' : FileTree) (place : Location) : Prop where
  workingDirectory : tree.workingDirectory = tree'.workingDirectory
  entry : ∀ l, ¬ place <+: l → tree.entry? l = tree'.entry? l

end FileTree

end PciInventory
