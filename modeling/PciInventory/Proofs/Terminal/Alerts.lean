import PciInventory.Proofs.Terminal.Escaping
import PciInventory.Proofs.Terminal.Pictures
import PciInventory.Terminal.Printing

/-!
# Messages that are printed without a fault

A message with one stretch in a colour, the rest of which is shown as text, says something that can
be drawn if it holds no joiner. An alert is such a message, since it is escaped; so is any message
in which no bracket stands but those of the two tags.

Nothing is said of other messages. What stands in their brackets may be taken for a tag, and they
may fail to be read.
-/
namespace PciInventory

open Text

namespace Markup

variable {r : Reading} {style held : Text} {before behind : List Piece}

/-- The name of a style that is its own normal form, and stands for no action. -/
structure NamesStyle (style : Text) : Prop where
  normal : Style.normalize? style = some style
  stripped : strip style = style
  filled : style ≠ []
  simple : '=' ∉ style
  noAction : style.head? ≠ some '@'
  noClosing : style.head? ≠ some '/'
  noJoiner : Cell.joiner ∉ style
  opening : tagAt? ('[' :: style ++ [']']) = some (style, [])
  closing : tagAt? ('[' :: ('/' :: style) ++ [']']) = some ('/' :: style, [])

theorem namesStyle_red : NamesStyle "red".toList := by
  constructor <;> decide +kernel

theorem namesStyle_green : NamesStyle "green".toList := by
  constructor <;> decide +kernel

theorem mem_of_mem_bare {c : Char} {t : Text} (h : c ∈ bare t) : c ∈ t := by
  fun_induction bare t with
  | case1 => exact h
  | case2 rest ih => exact List.mem_cons_of_mem _ (List.mem_cons.2 ((List.mem_cons.1 h).imp id ih))
  | case3 d rest _ ih => exact List.mem_cons.2 ((List.mem_cons.1 h).imp id ih)

theorem joiner_not_mem_bare (free : Cell.joiner ∉ held) : Cell.joiner ∉ bare held.reverse :=
  fun inside => free (List.mem_reverse.1 (mem_of_mem_bare inside))

theorem joiner_not_mem_slashes (n : Nat) : Cell.joiner ∉ List.replicate n '\\' :=
  fun inside => absurd (List.eq_of_mem_replicate inside) (by decide)

theorem splitTag_of_not_mem {t : Text} (h : '=' ∉ t) : splitTag t = (t, none) := by
  have simple : ∀ c ∈ t, (c != '=') = true := by
    intro c hc
    simp only [bne_iff_ne, ne_eq]
    rintro rfl
    exact h hc
  have nothing : t.dropWhile (· != '=') = [] := List.dropWhile_eq_nil_iff.2 simple
  rw [splitTag, List.takeWhile_eq_self_iff.2 simple, nothing]
  rfl

theorem NamesStyle.comparable (named : NamesStyle style) :
    Markup.comparable style = .ok style := by
  rw [Markup.comparable, named.normal]

namespace Reading
variable {r' r'' : Reading} {tag : OpenTag} {n : Nat}

/-- A reading behind another between which only text is shown. -/
structure IsBehind (r' r : Reading) : Prop where
  supported : JoinersSupported r.passage.text → JoinersSupported r'.passage.text
  opened : r'.opened = r.opened
  spans : r'.passage.spans = r.passage.spans

theorem IsBehind.refl (r : Reading) : r.IsBehind r := ⟨id, rfl, rfl⟩

theorem IsBehind.trans (h' : r''.IsBehind r') (h : r'.IsBehind r) : r''.IsBehind r :=
  ⟨h'.supported ∘ h.supported, h'.opened.trans h.opened, h'.spans.trans h.spans⟩

theorem isBehind_show {t : Text} (free : Cell.joiner ∉ t) : (r.show t).IsBehind r :=
  ⟨fun hr => hr.append (Emoji.joinersSupported_replace free).filter, rfl, rfl⟩

/-- What is shown in front of a tag: the characters held, and half of the backslashes. -/
theorem isBehind_tag (free : Cell.joiner ∉ held) (n : Nat) :
    ((r.show (bare held.reverse)).show (List.replicate (n / 2) '\\')).IsBehind r :=
  (isBehind_show (joiner_not_mem_slashes _)).trans (isBehind_show (joiner_not_mem_bare free))

/-- A tag that is made text is shown. -/
theorem exists_pieces_shown {content : Text} (hh : Cell.joiner ∉ held) (odd : n % 2 = 1)
    (hc : Cell.joiner ∉ content) (qs : List Piece) :
    ∃ r' : Reading, r.pieces held (.tag n content :: qs) = r'.pieces [] qs ∧ r'.IsBehind r := by
  refine ⟨_, by rw [pieces, if_pos odd], ?_⟩
  refine (isBehind_show ?_).trans (isBehind_tag hh n)
  simpa using ⟨by decide, hc, by decide⟩

/-- Pieces that are shown as text are read without a fault. -/
theorem exists_pieces_append (free : Cell.joiner ∉ held) (shown : ∀ p ∈ before, p.IsShown)
    (qs : List Piece) :
    ∃ (r' : Reading) (held' : Text), r.pieces held (before ++ qs) = r'.pieces held' qs ∧
      Cell.joiner ∉ held' ∧ r'.IsBehind r := by
  induction before generalizing r held with
  | nil => exact ⟨r, held, rfl, free, .refl r⟩
  | cons p rest ih =>
    obtain ⟨hp, others⟩ := List.forall_mem_cons.1 shown
    cases p with
    | plain c => exact ih (List.not_mem_cons_of_ne_of_not_mem (Ne.symm hp) free) others
    | tag n content =>
      obtain ⟨r', read, shows⟩ := exists_pieces_shown free hp.1 hp.2 (rest ++ qs)
      obtain ⟨r'', held', read', free', shows'⟩ := ih List.not_mem_nil others
      exact ⟨r'', held', read.trans read', free', shows'.trans shows⟩

theorem tag_style (named : NamesStyle style) (r : Reading) :
    r.tag style = .ok { r with opened := ⟨style, none, r.passage.text.length⟩ :: r.opened } := by
  rw [Reading.tag, splitTag_of_not_mem named.simple]
  split
  · rename_i closing
    exact absurd (by rw [(Prod.mk.inj closing).1]; rfl) named.noClosing
  · rename_i split
    obtain ⟨rfl, rfl⟩ := Prod.mk.inj split
    rw [named.comparable]
    rfl

theorem tag_slash_style (named : NamesStyle style) (opened : r.opened = [tag])
    (name : tag.name = style) :
    r.tag ('/' :: style) = .ok ({ r with opened := [] }.setOff tag (some tag.style)) := by
  have simple : '=' ∉ '/' :: style :=
    List.not_mem_cons_of_ne_of_not_mem (by decide) named.simple
  have closes : r.closedBy style = .ok tag := by
    rw [closedBy, if_neg named.filled, named.comparable]
    simp [opened, name]
  rw [Reading.tag, splitTag_of_not_mem simple]
  simp only [named.stripped, closes, Except.bind, close, name, named.noAction, if_false, opened]
  simp [name]

/-- A reading whose joiners are supported and in which no other style than one is met. -/
structure IsIn (r : Reading) (style : Text) : Prop where
  supported : JoinersSupported r.passage.text
  spans : ∀ s ∈ r.passage.spans, s.style = some style
  opened : ∀ tag ∈ r.opened, tag.style = style

theorem IsIn.of_isBehind (h : r.IsIn style) (behind : r'.IsBehind r) : r'.IsIn style :=
  ⟨behind.supported h.supported, by rw [behind.spans]; exact h.spans,
    by rw [behind.opened]; exact h.opened⟩

theorem IsIn.setOff (h : r.IsIn style) (ht : tag.style = style) :
    (r.setOff tag (some tag.style)).IsIn style :=
  ⟨h.supported, List.forall_mem_cons.2 ⟨congrArg some ht, h.spans⟩, h.opened⟩

theorem exists_pieces_closing (named : NamesStyle style) (h : r.IsIn style)
    (opened : r.opened = [tag]) (name : tag.name = style) (free : Cell.joiner ∉ held) (n : Nat)
    (qs : List Piece) :
    ∃ r' : Reading, r.pieces held (.tag n ('/' :: style) :: qs) = r'.pieces [] qs ∧
      r'.IsIn style := by
  have ht : tag.style = style := h.opened tag (by rw [opened]; exact List.mem_singleton_self _)
  by_cases odd : n % 2 = 1
  · have content : Cell.joiner ∉ '/' :: style :=
      List.not_mem_cons_of_ne_of_not_mem (by decide) named.noJoiner
    obtain ⟨r', read, shows⟩ := exists_pieces_shown (r := r) free odd content qs
    exact ⟨r', read, h.of_isBehind shows⟩
  · have shows := isBehind_tag (r := r) free n
    have closed := tag_slash_style named (shows.opened.trans opened) name
    refine ⟨_, by rw [pieces, if_neg odd, closed], ?_⟩
    have before := h.of_isBehind shows
    exact IsIn.setOff ⟨before.supported, before.spans, List.forall_mem_nil _⟩ ht

theorem exists_pieces_opening (named : NamesStyle style) (qs : List Piece) :
    ∃ (r : Reading) (tag : OpenTag),
      (⟨[], ⟨[], []⟩⟩ : Reading).pieces [] (.tag 0 style :: qs) = r.pieces [] qs ∧
        r.IsIn style ∧ r.opened = [tag] ∧ tag.name = style := by
  have empty : IsIn ⟨[], ⟨[], []⟩⟩ style :=
    ⟨joinersSupported_of_not_mem List.not_mem_nil, List.forall_mem_nil _, List.forall_mem_nil _⟩
  have before := empty.of_isBehind (isBehind_tag List.not_mem_nil 0)
  refine ⟨_, _, by rw [pieces, if_neg (by decide), tag_style named], ?_, rfl, rfl⟩
  exact ⟨before.supported, before.spans, List.forall_mem_cons.2 ⟨rfl, before.opened⟩⟩

/-- A reading in one style says something drawable when all of its tags are closed. -/
theorem IsIn.isDrawable (named : NamesStyle style) (h : r.IsIn style) :
    (r.opened.foldl (fun r tag => r.setOff tag (some tag.style)) r).passage.IsDrawable := by
  have closed (tags : List OpenTag) (ht : ∀ tag ∈ tags, tag.style = style) :
      (tags.foldl (fun r tag => r.setOff tag (some tag.style)) r).IsIn style := by
    induction tags generalizing r with
    | nil => exact h
    | cons tag rest ih =>
      obtain ⟨first, others⟩ := List.forall_mem_cons.1 ht
      exact ih (h.setOff first) others
  obtain ⟨supported, spans, -⟩ := closed r.opened h.opened
  refine ⟨supported.apart, List.all_eq_true.2 fun s hs => ?_⟩
  rw [spans s hs]
  simp [named.normal]

end Reading

/-- A text with one style in it, and nothing else that is no text, says something drawable. -/
theorem exists_passage {t : Text} {n : Nat} (named : NamesStyle style)
    (cut : Cuts t (.tag 0 style :: (before ++ .tag n ('/' :: style) :: behind)))
    (hb : ∀ p ∈ before, p.IsShown) (hr : ∀ p ∈ behind, p.IsShown) :
    ∃ p, passage t = .ok p ∧ p.IsDrawable := by
  obtain ⟨r, tag, read, inside, opened, name⟩ := Reading.exists_pieces_opening named
    (before ++ .tag n ('/' :: style) :: behind)
  obtain ⟨r₁, held₁, read₁, free₁, behind₁⟩ := Reading.exists_pieces_append (r := r)
    List.not_mem_nil hb (.tag n ('/' :: style) :: behind)
  obtain ⟨r₂, read₂, inside₂⟩ := Reading.exists_pieces_closing named
    (inside.of_isBehind behind₁) (behind₁.opened.trans opened) name free₁ n behind
  obtain ⟨r₃, held₃, read₃, free₃, behind₃⟩ := Reading.exists_pieces_append (r := r₂)
    List.not_mem_nil hr []
  have inside₄ := (inside₂.of_isBehind behind₃).of_isBehind
    (Reading.isBehind_show (joiner_not_mem_bare free₃))
  rw [List.append_nil] at read₃
  refine ⟨_, ?_, inside₄.isDrawable named⟩
  rw [passage, cut.pieces_eq, read, read₁, read₂, read₃]
  rfl

/-- An escaped text in a style, and text behind it, say something drawable. -/
theorem exists_passage_styled {t rest : Text} {ps : List Piece} (named : NamesStyle style)
    (cuts : Cuts t ps) (free : Cell.joiner ∉ t) (n : Nat) (later : Cuts rest behind)
    (shown : ∀ p ∈ behind, p.IsShown) :
    ∃ p, passage ('[' :: style ++ ']' :: (escaped ps ++
        (List.replicate n '\\' ++ ('[' :: ('/' :: style) ++ ']' :: rest)))) = .ok p ∧
      p.IsDrawable := by
  obtain ⟨before, m, inside, shown'⟩ :=
    cuts.escaped_before_tag free n (tagAt?_append named.closing rest) later
  exact exists_passage named (.tag 0 (tagAt?_append named.opening _) inside) shown' shown

theorem exists_passage_alert {t : Text} (free : Cell.joiner ∉ t) :
    ∃ p, passage (alert t) = .ok p ∧ p.IsDrawable := by
  obtain ⟨n, split⟩ := escape_eq t
  obtain ⟨p, read, drawable⟩ := exists_passage_styled namesStyle_red (cuts_pieces t) free n
    (.slashes 0) (List.forall_mem_nil _)
  refine ⟨p, ?_, drawable⟩
  rw [← read, alert, styled, split]
  simp

end Markup

/-- An alert is printed to its end. -/
theorem Terminal.message_alert {t : Text} (free : Cell.joiner ∉ t) :
    (message (Markup.alert t)).2 = none := by
  obtain ⟨p, read, drawable⟩ := Markup.exists_passage_alert free
  exact message_of_isDrawable read drawable

/-- Words in a style and words behind them are printed to their end if no bracket is among them. -/
theorem Terminal.message_styled {style words rest : Text} (named : Markup.NamesStyle style)
    (hw : '[' ∉ words) (hw' : Cell.joiner ∉ words) (hr : '[' ∉ rest) (hr' : Cell.joiner ∉ rest) :
    (message (Markup.styled style words ++ rest)).2 = none := by
  have apart : Markup.styled style words ++ rest =
      '[' :: style ++ ']' :: (words ++ ('[' :: ('/' :: style) ++ ']' :: rest)) := by
    simp [Markup.styled]
  have shown : ∀ p ∈ rest.map Markup.Piece.plain, p.IsShown := by
    intro p hp
    obtain ⟨c, hc, rfl⟩ := List.mem_map.1 hp
    rintro rfl
    exact hr' hc
  obtain ⟨p, read, drawable⟩ := Markup.exists_passage_styled named (Markup.cuts_map_plain hw) hw' 0
    (Markup.cuts_map_plain hr) shown
  rw [Markup.escaped_map_plain] at read
  rw [apart]
  exact message_of_isDrawable read drawable

end PciInventory
