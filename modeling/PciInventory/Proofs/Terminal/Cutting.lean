import PciInventory.Terminal.Layout

/-!
# Cutting a text off

A text is cut off if by its count it takes too many cells, and where is looked for among its
clusters. That finds a place as long as the clusters take at least as many cells as were counted.
They do unless the text begins with two joiners: to the count the first joiner swallows the second,
among the clusters the second one swallows what is behind it.
-/
namespace PciInventory

namespace Cell

theorem total_append (as bs : List Nat) :
    Layout.total (as ++ bs) = Layout.total as + Layout.total bs := by
  induction as with
  | nil => simp [Layout.total]
  | cons a rest ih => simp [Layout.total, ih, Nat.add_assoc]

theorem total_reverse (ns : List Nat) : Layout.total ns.reverse = Layout.total ns := by
  induction ns with
  | nil => rfl
  | cons n rest ih =>
    rw [List.reverse_cons, total_append, ih]
    simp [Layout.total, Nat.add_comm]

namespace Splitter
variable {s : Splitter} {last : Option Char} {c : Char}

/-- The cells of a splitter's clusters, together. -/
def cells (s : Splitter) : Nat := Layout.total (s.clusters.map Cluster.cells)

theorem cells_attach (s : Splitter) (c : Char) : (s.attach c).cells = s.cells := by
  unfold attach cells
  cases s.clusters <;> rfl

theorem attach_ne_nil (s : Splitter) (c : Char) : (s.attach c).clusters ≠ [] := by
  unfold attach
  cases s.clusters <;> exact List.cons_ne_nil _ _

theorem joining_attach (s : Splitter) (c : Char) : (s.attach c).joining = s.joining := by
  unfold attach
  cases s.clusters <;> rfl

theorem widenable_attach (s : Splitter) (c : Char) : (s.attach c).widenable = s.widenable := by
  unfold attach
  cases s.clusters <;> rfl

theorem widen_attach (s : Splitter) (c : Char) : (s.attach c).widen.clusters ≠ [] ∧
    (s.attach c).widen.joining = s.joining ∧ (s.attach c).widen.cells = s.cells + 1 := by
  obtain ⟨front, more, started⟩ := List.exists_cons_of_ne_nil (s.attach_ne_nil c)
  rw [← joining_attach s c, ← cells_attach s c]
  simp only [widen, cells, started, List.map_cons, Layout.total]
  exact ⟨List.cons_ne_nil _ _, trivial, by omega⟩

theorem feed_ne_nil (s : Splitter) (c : Char) : (s.feed c).clusters ≠ [] := by
  unfold feed
  split
  · exact attach_ne_nil s c
  · split
    · exact attach_ne_nil s c
    · split
      · split
        · exact (widen_attach s c).1
        · exact attach_ne_nil s c
      · split
        · exact attach_ne_nil s c
        · exact List.cons_ne_nil _ _

/-- A splitter that has not just read a joiner, and may widen what the count may widen. -/
structure Covers (s : Splitter) (last : Option Char) : Prop where
  idle : s.joining = false
  widens : last.any isWidened = true → s.widenable.any isWidened = true

theorem covers_none (idle : s.joining = false) : s.Covers none := ⟨idle, nofun⟩

theorem cells_feed_joiner (idle : s.joining = false) : (s.feed joiner).cells = s.cells := by
  have fed : s.feed joiner = { s.attach joiner with joining := !s.clusters.isEmpty } := by
    simp [feed, idle]
  rw [fed]
  exact cells_attach s joiner

theorem Covers.feed_joiner (h : s.Covers last) (started : s.clusters ≠ []) (c : Char) :
    ((s.feed joiner).feed c).Covers last ∧ ((s.feed joiner).feed c).cells = s.cells := by
  have fed : (s.feed joiner).feed c =
      { ({ s.attach joiner with joining := true } : Splitter).attach c with joining := false } := by
    have joined : (!s.clusters.isEmpty) = true := by simpa using started
    simp [feed, h.idle, joined]
  rw [fed]
  constructor
  · refine ⟨rfl, fun wide => ?_⟩
    simp only [widenable_attach]
    exact h.widens wide
  · exact (cells_attach { s.attach joiner with joining := true } c).trans (cells_attach s joiner)

theorem Covers.feed_pictureMark (h : s.Covers last) : (s.feed pictureMark).Covers none ∧
    s.cells + (if last.any isWidened then 1 else 0) ≤ (s.feed pictureMark).cells := by
  have fed : s.feed pictureMark =
      if s.widenable.any isWidened then (s.attach pictureMark).widen else s.attach pictureMark := by
    simp [feed, h.idle, pictureMark, joiner]
  rw [fed]
  split
  · obtain ⟨-, same, more⟩ := widen_attach s pictureMark
    refine ⟨covers_none (by rw [same, h.idle]), ?_⟩
    rw [more]
    split <;> omega
  · rename_i narrow
    refine ⟨covers_none (by rw [joining_attach, h.idle]), ?_⟩
    rw [cells_attach, if_neg fun wide => narrow (h.widens wide)]
    exact Nat.le_refl _

theorem Covers.feed_noCells (h : s.Covers last) (hj : c ≠ joiner) (hp : c ≠ pictureMark)
    (hc : ofChar c = 0) : (s.feed c).Covers last ∧ (s.feed c).cells = s.cells := by
  have fed : s.feed c = s.attach c := by simp [feed, h.idle, hj, hp, hc]
  rw [fed]
  refine ⟨⟨by rw [joining_attach, h.idle], ?_⟩, cells_attach s c⟩
  rw [widenable_attach]
  exact h.widens

theorem feed_cells (idle : s.joining = false) (hj : c ≠ joiner) (hp : c ≠ pictureMark)
    (hc : ofChar c ≠ 0) :
    (s.feed c).Covers (some c) ∧ (s.feed c).cells = s.cells + ofChar c := by
  have fed : s.feed c = ⟨⟨[c], ofChar c⟩ :: s.clusters, some c, false⟩ := by
    unfold feed
    rw [idle, if_neg Bool.false_ne_true, if_neg hj, if_neg hp]
    split
    · exact absurd ‹_› hc
    · rfl
  rw [fed]
  exact ⟨⟨rfl, id⟩, Nat.add_comm _ _⟩

theorem joining_feed (idle : s.joining = false) (hj : c ≠ joiner) : (s.feed c).joining = false := by
  by_cases hp : c = pictureMark
  · subst hp
    exact (covers_none idle).feed_pictureMark.1.idle
  · by_cases hc : ofChar c = 0
    · exact ((covers_none idle).feed_noCells hj hp hc).1.idle
    · exact (feed_cells idle hj hp hc).1.idle

/-- From a splitter on that covers the count, the clusters take at least as many cells as are
counted, unless a joiner stands at the very front. -/
theorem Covers.countFrom_le (h : s.Covers last) (t : Text)
    (ready : s.clusters ≠ [] ∨ t.head? ≠ some joiner) :
    s.cells + countFrom last t ≤ (t.foldl feed s).cells := by
  fun_induction countFrom last t generalizing s with
  | case1 last => exact Nat.le_refl _
  | case2 last => exact Nat.le_of_eq (cells_feed_joiner h.idle).symm
  | case3 last c rest ih =>
    have started : s.clusters ≠ [] := ready.resolve_right fun front => front rfl
    obtain ⟨covers, same⟩ := h.feed_joiner started c
    rw [← same]
    exact ih covers (.inl (feed_ne_nil _ c))
  | case4 last rest _ ih =>
    obtain ⟨covers, more⟩ := h.feed_pictureMark
    have behind := ih covers (.inl (feed_ne_nil s _))
    rw [List.foldl_cons]
    omega
  | case5 last c rest hj hp hc ih =>
    obtain ⟨covers, same⟩ := h.feed_noCells hj hp hc
    rw [← same]
    exact ih covers (.inl (feed_ne_nil s c))
  | case6 last c rest hj hp hc ih =>
    obtain ⟨covers, more⟩ := feed_cells h.idle hj hp hc
    rw [← Nat.add_assoc, ← more]
    exact ih covers (.inl (feed_ne_nil s c))

end Splitter

/-- Unless a text begins with two joiners its clusters take at least as many cells as its count
says. -/
theorem count_le_total {t : Text} (h : ¬ [joiner, joiner] <+: t) :
    count t ≤ Layout.total ((clusters t).map Cluster.cells) := by
  rw [clusters, List.map_reverse, total_reverse]
  change count t ≤ (t.foldl Splitter.feed ⟨[], none, false⟩).cells
  have start : Splitter.Covers ⟨[], none, false⟩ none := Splitter.covers_none rfl
  have nothing : Splitter.cells ⟨[], none, false⟩ = 0 := rfl
  match t with
  | [] => exact Nat.le_refl _
  | [c] =>
    by_cases hj : c = joiner
    · subst hj
      exact Nat.zero_le _
    · have counted := start.countFrom_le [c] (.inr (by simpa using hj))
      rw [nothing, Nat.zero_add] at counted
      exact counted
  | c :: x :: rest =>
    by_cases hj : c = joiner
    · -- the joiner swallows `x` only to the count; to the splitter it stands for itself
      subst hj
      have other : x ≠ joiner := by
        rintro rfl
        exact h ⟨rest, rfl⟩
      have idle : ((Splitter.feed ⟨[], none, false⟩ joiner).feed x).joining = false :=
        Splitter.joining_feed (by decide) other
      have counted := (Splitter.covers_none idle).countFrom_le rest
        (.inl (Splitter.feed_ne_nil _ x))
      exact Nat.le_trans (Nat.le_add_left _ _) counted
    · have counted := start.countFrom_le (c :: x :: rest) (.inr (by simpa using hj))
      rw [nothing, Nat.zero_add] at counted
      exact counted

end Cell

namespace Layout

/-- A text without two joiners at its front can be cut off anywhere. -/
theorem exists_cut_eq_ok (width : Nat) {t : Text} (h : ¬ [Cell.joiner, Cell.joiner] <+: t) :
    ∃ shorter, cut width t = .ok shorter := by
  have enough := Cell.count_le_total h
  unfold cut
  split
  · exact ⟨t, rfl⟩
  · simp only
    rw [if_neg (by omega), if_neg (by omega)]
    exact ⟨_, rfl⟩

end Layout

end PciInventory
