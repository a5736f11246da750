import PciInventory.Proofs.Text.Trimming

/-!
# Lines behind lines

A text may be taken apart into lines from the front, one line end at a time, and a text that ends in
a line end may be read apart from what comes behind it. Only a carriage return and a line feed side
by side cannot be told apart, since they are one line end.

Nothing is said here of other separators of Unicode; they are characters like others.
-/
namespace PciInventory.Text
variable {l t : Text}

/-- A text with unified line ends, behind a carriage return or not. -/
def unifyFrom (afterReturn : Bool) (t : Text) : Text :=
  (t.foldl LineEndReader.feed ⟨[], afterReturn⟩).read.reverse

theorem unifyLineEnds_eq (t : Text) : unifyLineEnds t = unifyFrom false t := rfl

/-- What is read before a text does not bear on how its line ends are read. -/
theorem foldl_feed_lineEnds (read : Text) (afterReturn : Bool) (t : Text) :
    (t.foldl LineEndReader.feed ⟨read, afterReturn⟩).read =
      (unifyFrom afterReturn t).reverse ++ read := by
  induction t generalizing read afterReturn with
  | nil => rfl
  | cons c rest ih =>
    have apart (next : LineEndReader) : (rest.foldl LineEndReader.feed next).read =
        (unifyFrom next.afterReturn rest).reverse ++ next.read := ih next.read next.afterReturn
    rw [unifyFrom, List.reverse_reverse, List.foldl_cons, List.foldl_cons, apart, apart]
    simp only [LineEndReader.feed]
    split_ifs <;> simp

@[simp] theorem unifyFrom_nil (afterReturn : Bool) : unifyFrom afterReturn [] = [] := rfl

theorem unifyFrom_return (afterReturn : Bool) (t : Text) :
    unifyFrom afterReturn ('\r' :: t) = '\n' :: unifyFrom true t := by
  simp [unifyFrom, LineEndReader.feed, foldl_feed_lineEnds ['\n']]

theorem unifyFrom_feed (afterReturn : Bool) (t : Text) : unifyFrom afterReturn ('\n' :: t) =
    if afterReturn then unifyFrom false t else '\n' :: unifyFrom false t := by
  cases afterReturn <;> simp [unifyFrom, LineEndReader.feed, foldl_feed_lineEnds ['\n']]

theorem unifyFrom_cons (afterReturn : Bool) {c : Char} (h : c ≠ '\r' ∧ c ≠ '\n') (t : Text) :
    unifyFrom afterReturn (c :: t) = c :: unifyFrom false t := by
  simp [unifyFrom, LineEndReader.feed, h, foldl_feed_lineEnds [c]]

/-- Behind a carriage return only a line feed is read otherwise. -/
theorem unifyFrom_eq (afterReturn : Bool) (h : t.head? ≠ some '\n') :
    unifyFrom afterReturn t = unifyFrom false t := by
  cases t with
  | nil => rfl
  | cons c rest =>
    have other : c ≠ '\n' := fun same => h (by rw [same]; rfl)
    by_cases carriage : c = '\r'
    · rw [carriage, unifyFrom_return, unifyFrom_return]
    · rw [unifyFrom_cons _ ⟨carriage, other⟩, unifyFrom_cons _ ⟨carriage, other⟩]

/-- The line ends of two texts are unified apart if they do not make one between them. -/
theorem unifyFrom_append (afterReturn : Bool) (t : Text) {t' : Text} (h : t'.head? ≠ some '\n') :
    unifyFrom afterReturn (t ++ t') = unifyFrom afterReturn t ++ unifyFrom false t' := by
  induction t generalizing afterReturn with
  | nil => exact unifyFrom_eq afterReturn h
  | cons c rest ih =>
    rw [List.cons_append]
    by_cases carriage : c = '\r'
    · rw [carriage, unifyFrom_return, unifyFrom_return, ih, List.cons_append]
    · by_cases feed : c = '\n'
      · rw [feed, unifyFrom_feed, unifyFrom_feed, ih]
        cases afterReturn <;> rfl
      · rw [unifyFrom_cons _ ⟨carriage, feed⟩, unifyFrom_cons _ ⟨carriage, feed⟩, ih,
          List.cons_append]

/-- A line is kept as it is, and what is behind it is read as behind no carriage return. -/
theorem unifyFrom_line (line : IsOneLine l) (t : Text) :
    unifyFrom false (l ++ t) = l ++ unifyFrom false t := by
  induction l with
  | nil => rfl
  | cons c rest ih =>
    rw [List.cons_append, unifyFrom_cons _ (line c List.mem_cons_self),
      ih fun c hc => line c (List.mem_cons_of_mem _ hc), List.cons_append]

/-- A text that ends in a line end ends in a line feed once its line ends are unified. -/
theorem exists_unifyFrom_eq {c : Char} (ending : c = '\r' ∨ c = '\n') (afterReturn : Bool)
    (t : Text) : (∃ u, unifyFrom afterReturn (t ++ [c]) = u ++ ['\n']) ∨
      (afterReturn = true ∧ t = [] ∧ c = '\n') := by
  induction t generalizing afterReturn with
  | nil =>
    rcases ending with rfl | rfl
    · exact .inl ⟨[], by rw [List.nil_append, unifyFrom_return]; rfl⟩
    · cases afterReturn with
      | false => exact .inl ⟨[], by rw [List.nil_append, unifyFrom_feed]; rfl⟩
      | true => exact .inr ⟨rfl, rfl, rfl⟩
  | cons x rest ih =>
    left
    rw [List.cons_append]
    by_cases carriage : x = '\r'
    · rw [carriage, unifyFrom_return]
      rcases ih true with ⟨u, hu⟩ | ⟨-, rfl, rfl⟩
      · exact ⟨'\n' :: u, by rw [hu, List.cons_append]⟩
      · exact ⟨[], by rw [List.nil_append, unifyFrom_feed]; rfl⟩
    · obtain ⟨u, hu⟩ := (ih false).resolve_right (by simp)
      by_cases feed : x = '\n'
      · rw [feed, unifyFrom_feed, hu]
        cases afterReturn with
        | false => exact ⟨'\n' :: u, rfl⟩
        | true => exact ⟨u, rfl⟩
      · exact ⟨x :: u, by rw [unifyFrom_cons _ ⟨carriage, feed⟩, hu, List.cons_append]⟩

theorem linesOfUnified_append (u v : Text) :
    linesOfUnified (u ++ '\n' :: v) = u.splitOn '\n' ++ linesOfUnified v := by
  have some : v.splitOn '\n' ≠ [] := List.splitOn_ne_nil '\n' v
  rw [linesOfUnified, List.splitOn_append_cons_self]
  simp only [linesOfUnified, List.getLast?_append_of_ne_nil _ some,
    List.dropLast_append_of_ne_nil some]
  split <;> rfl

theorem IsOneLine.splitOn (line : IsOneLine l) : l.splitOn '\n' = [l] :=
  List.splitOnP_eq_singleton fun c hc => by simpa using (line c hc).2

theorem dropLineEnd_of_isOneLine (line : IsOneLine l) : dropLineEnd l = l := by
  have plain : dropLineEnd (l ++ []) = l := dropLineEnd_append line nofun
  rwa [List.append_nil] at plain

section Lines

theorem lines_append_feed (line : IsOneLine l) (t : Text) :
    lines (l ++ '\n' :: t) = l :: lines t := by
  rw [lines, unifyLineEnds_eq, unifyFrom_line line, unifyFrom_feed, if_neg Bool.false_ne_true,
    linesOfUnified_append, line.splitOn]
  rfl

theorem lines_append_return_feed (line : IsOneLine l) (t : Text) :
    lines (l ++ '\r' :: '\n' :: t) = l :: lines t := by
  rw [lines, unifyLineEnds_eq, unifyFrom_line line, unifyFrom_return, unifyFrom_feed, if_pos rfl,
    linesOfUnified_append, line.splitOn]
  rfl

theorem lines_append_return (line : IsOneLine l) (h : t.head? ≠ some '\n') :
    lines (l ++ '\r' :: t) = l :: lines t := by
  rw [lines, unifyLineEnds_eq, unifyFrom_line line, unifyFrom_return, unifyFrom_eq _ h,
    linesOfUnified_append, line.splitOn]
  rfl

/-- A last line, which no line end is behind. -/
theorem lines_of_isOneLine (line : IsOneLine l) : lines l = if l = [] then [] else [l] := by
  have same : unifyLineEnds l = l := by
    have := unifyFrom_line line []
    rwa [List.append_nil, unifyFrom_nil, List.append_nil] at this
  rw [lines, same, linesOfUnified, line.splitOn]
  by_cases none : l = [] <;> simp [none]

/-- What is read behind a line that ends is the same behind every line. -/
theorem exists_lines_append {c : Char} (ending : c = '\r' ∨ c = '\n') (t : Text) :
    ∃ rest, ∀ l, IsOneLine l → lines (l ++ c :: t) = l :: lines rest := by
  rcases ending with rfl | rfl
  · by_cases feed : t.head? = Option.some '\n'
    · obtain ⟨rest, rfl⟩ := List.head?_eq_some_iff.1 feed
      exact ⟨rest, fun l line => lines_append_return_feed line rest⟩
    · exact ⟨t, fun l line => lines_append_return line feed⟩
  · exact ⟨t, fun l line => lines_append_feed line t⟩

/-- A line in front of a line end, or of nothing, is the first, and the others do not depend on
it. -/
theorem lines_append_of_isOneLine (line : IsOneLine l) (filled : l ≠ [])
    (ended : ∀ c, t.head? = some c → c = '\r' ∨ c = '\n') :
    lines (l ++ t) = l :: (lines t).tail := by
  cases t with
  | nil =>
    rw [List.append_nil, lines_of_isOneLine line, if_neg filled]
    rfl
  | cons c t =>
    obtain ⟨rest, split⟩ := exists_lines_append (ended c rfl) t
    have alone : lines (c :: t) = [] :: lines rest := split [] nofun
    rw [split l line, alone, List.tail_cons]

/-- Behind a line end, lines are read on their own. -/
theorem lines_append (ended : ∀ c, t.getLast? = some c → c = '\r' ∨ c = '\n') {t' : Text}
    (h : t'.head? ≠ some '\n') : lines (t ++ t') = lines t ++ lines t' := by
  rcases List.eq_nil_or_concat t with rfl | ⟨front, c, rfl⟩
  · rfl
  · rw [List.concat_eq_append] at ended ⊢
    have ending := ended c List.getLast?_concat
    obtain ⟨u, hu⟩ := (exists_unifyFrom_eq ending false front).resolve_right (by simp)
    have first : linesOfUnified (u ++ ['\n']) = u.splitOn '\n' := by
      rw [linesOfUnified_append]
      exact List.append_nil _
    rw [lines, lines, lines, unifyLineEnds_eq, unifyLineEnds_eq, unifyLineEnds_eq,
      unifyFrom_append false _ h, hu, List.append_assoc, List.singleton_append,
      linesOfUnified_append, first]

theorem return_not_mem_unifyFrom (afterReturn : Bool) (t : Text) :
    '\r' ∉ unifyFrom afterReturn t := by
  induction t generalizing afterReturn with
  | nil => exact List.not_mem_nil
  | cons c rest ih =>
    by_cases carriage : c = '\r'
    · rw [carriage, unifyFrom_return, List.mem_cons, not_or]
      exact ⟨by decide, ih true⟩
    · by_cases feed : c = '\n'
      · rw [feed, unifyFrom_feed]
        cases afterReturn with
        | false => exact List.not_mem_cons_of_ne_of_not_mem (by decide) (ih false)
        | true => exact ih false
      · rw [unifyFrom_cons _ ⟨carriage, feed⟩]
        exact List.not_mem_cons_of_ne_of_not_mem (Ne.symm carriage) (ih false)

theorem isOneLine_of_mem_lines (h : l ∈ lines t) : IsOneLine l := by
  intro c hc
  have piece : l ∈ (unifyLineEnds t).splitOn '\n' := by
    rw [lines, linesOfUnified] at h
    split at h
    · exact List.dropLast_subset _ h
    · exact h
  have here : c ∈ ((unifyLineEnds t).splitOn '\n').flatten := List.mem_flatten.2 ⟨l, piece, hc⟩
  rw [List.splitOn, flatten_splitOnP, List.mem_filter, unifyLineEnds_eq] at here
  refine ⟨?_, by simpa using here.2⟩
  rintro rfl
  exact return_not_mem_unifyFrom false t here.1

theorem map_dropLineEnd_lines (t : Text) : (lines t).map dropLineEnd = lines t := by
  have each : ∀ l ∈ lines t, dropLineEnd l = id l :=
    fun l h => dropLineEnd_of_isOneLine (isOneLine_of_mem_lines h)
  rw [List.map_congr_left each, List.map_id]

end Lines

end PciInventory.Text
