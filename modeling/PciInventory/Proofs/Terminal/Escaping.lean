import Mathlib.Data.List.TakeDrop
import Mathlib.Data.List.TakeWhile
import PciInventory.Terminal.Cell
import PciInventory.Terminal.Markup

/-!
# Escaped texts hold no tags

How a text comes apart into characters and tags is told by a relation, `Cuts`, and `pieces` is the
one way in which it does. By that relation an escaped text, with any number of backslashes and a tag
behind it, has the tag at its end, and every other tag in it has an odd number of backslashes in
front of it, so that it is shown as text.
-/
namespace PciInventory.Markup

variable {t rest content inner behind : Text} {ps qs : List Piece} {c : Char}

def isBracket (c : Char) : Bool := c == '[' || c == ']'

def bracket? (t : Text) : Option Char := t.find? isBracket

/-- Whether a tag's content could stand at the front of a text, with a closing bracket behind. -/
def OpensTag (t : Text) : Prop := t.head?.any isTagStart = true ∧ bracket? t = some ']'

theorem isBracket_of_isTagStart (h : isTagStart c = true) : isBracket c = false := by
  unfold isBracket
  rw [Bool.or_eq_false_iff, beq_eq_false_iff_ne, beq_eq_false_iff_ne]
  constructor <;> rintro rfl <;> revert h <;> decide

theorem tagAt?_cons (hc : isTagStart c = true) (hi : ∀ d ∈ inner, isBracket d = false)
    (rest : Text) : tagAt? ('[' :: c :: inner ++ ']' :: rest) = some (c :: inner, rest) := by
  have inside : ∀ d ∈ inner, (d != '[' && d != ']') = true := by
    intro d hd
    have free := hi d hd
    simpa [isBracket, bne] using free
  have cut : (inner ++ ']' :: rest).span (fun d => d != '[' && d != ']') =
      (inner, ']' :: rest) := by
    rw [List.span_eq_takeWhile_dropWhile, List.takeWhile_append_of_pos inside,
      List.dropWhile_append_of_pos inside]
    simp
  rw [List.cons_append, List.cons_append, tagAt?, if_pos hc, cut]
  rfl

/-- A tag at the front of a text is its content in brackets, which holds no bracket. -/
theorem tagAt?_eq_some (h : tagAt? t = some (content, rest)) : ∃ c inner, content = c :: inner ∧
    isTagStart c = true ∧ (∀ d ∈ inner, isBracket d = false) ∧
      t = '[' :: content ++ ']' :: rest := by
  unfold tagAt? at h
  split at h
  · rename_i c more
    split at h
    · rename_i start
      split at h
      · rename_i inner rest' cut
        cases h
        rw [List.span_eq_takeWhile_dropWhile] at cut
        obtain ⟨rfl, behind⟩ := Prod.mk.inj cut
        refine ⟨c, _, rfl, start, fun d hd => ?_, ?_⟩
        · have free := List.mem_takeWhile_imp hd
          simpa [isBracket, bne] using free
        · rw [← behind]
          simp
      · cases h
    · cases h
  · cases h

/-- A tag's content makes a tag whatever stands behind it. -/
theorem tagAt?_append (h : tagAt? t = some (content, rest)) (behind : Text) :
    tagAt? ('[' :: content ++ ']' :: behind) = some (content, behind) := by
  obtain ⟨c, inner, rfl, hc, hi, -⟩ := tagAt?_eq_some h
  exact tagAt?_cons hc hi behind

/-- There is no tag behind an opening bracket exactly if the text there does not open one. -/
theorem tagAt?_eq_none_iff : tagAt? ('[' :: t) = none ↔ ¬ OpensTag t := by
  constructor
  · rintro none ⟨front, closed⟩
    cases t with
    | nil => cases front
    | cons c more =>
      have start : isTagStart c = true := front
      rw [bracket?, List.find?_cons_of_neg (by simp [isBracket_of_isTagStart start]),
        List.find?_eq_some_iff_append] at closed
      obtain ⟨-, inner, rest, rfl, free⟩ := closed
      rw [← List.cons_append, ← List.cons_append, tagAt?_cons start (by simpa using free)] at none
      cases none
  · intro closed
    cases found : tagAt? ('[' :: t) with
    | none => rfl
    | some tag =>
      obtain ⟨c, inner, split, start, free, whole⟩ := tagAt?_eq_some found
      obtain rfl : t = c :: inner ++ ']' :: tag.2 := by
        rw [split] at whole
        exact (List.cons.inj whole).2
      refine absurd ⟨start, ?_⟩ closed
      rw [bracket?, List.find?_eq_some_iff_append]
      refine ⟨by decide, c :: inner, tag.2, rfl, ?_⟩
      simpa [isBracket_of_isTagStart start] using free

/-- How a text comes apart into pieces: step by step, each with the backslashes in front of it. -/
inductive Cuts : Text → List Piece → Prop where
  | slashes (n : Nat) : Cuts (List.replicate n '\\') ((List.replicate n '\\').map .plain)
  | tag (n : Nat) {content rest : Text} {ps : List Piece}
      (found : tagAt? ('[' :: content ++ ']' :: rest) = some (content, rest)) (h : Cuts rest ps) :
      Cuts (List.replicate n '\\' ++ ('[' :: content ++ ']' :: rest)) (.tag n content :: ps)
  | char (n : Nat) {c : Char} {rest : Text} {ps : List Piece} (other : c ≠ '\\')
      (none : tagAt? (c :: rest) = none) (h : Cuts rest ps) :
      Cuts (List.replicate n '\\' ++ c :: rest)
        ((List.replicate n '\\').map .plain ++ .plain c :: ps)

theorem cuts_piecesWith {fuel : Nat} (enough : t.length < fuel) : Cuts t (piecesWith fuel t) := by
  induction fuel generalizing t with
  | zero => exact absurd enough (Nat.not_lt_zero _)
  | succ fuel ih =>
    have whole : t.takeWhile (· == '\\') ++ t.dropWhile (· == '\\') = t :=
      List.takeWhile_append_dropWhile
    have front : t.takeWhile (· == '\\') =
        List.replicate (t.takeWhile (· == '\\')).length '\\' :=
      List.eq_replicate_of_mem fun d hd => by simpa using List.mem_takeWhile_imp hd
    have length := congrArg List.length whole
    rw [List.length_append] at length
    unfold piecesWith
    simp only
    split
    · rename_i content rest found
      obtain ⟨-, -, -, -, -, split⟩ := tagAt?_eq_some found
      rw [split] at found whole length
      have shorter : rest.length < fuel := by
        simp only [List.cons_append, List.length_cons, List.length_append] at length
        omega
      have cuts := Cuts.tag (t.takeWhile (· == '\\')).length found (ih shorter)
      rw [← front, whole] at cuts
      exact cuts
    · rename_i none
      split
      · rename_i nothing
        rw [nothing, List.append_nil] at whole
        have cuts := Cuts.slashes (t.takeWhile (· == '\\')).length
        rw [← front, whole] at cuts
        rw [List.append_nil, whole]
        exact cuts
      · rename_i c rest split
        rw [split] at none whole length
        have other : c ≠ '\\' := by
          rintro rfl
          have stops := List.head?_dropWhile_not (· == '\\') t
          rw [split] at stops
          cases stops
        have shorter : rest.length < fuel := by
          rw [List.length_cons] at length
          omega
        have cuts := Cuts.char (t.takeWhile (· == '\\')).length other none (ih shorter)
        rw [← front, whole] at cuts
        exact cuts

theorem cuts_pieces (t : Text) : Cuts t (pieces t) := cuts_piecesWith (Nat.lt_succ_self _)

theorem Cuts.piecesWith_eq (h : Cuts t ps) {fuel : Nat} (enough : t.length < fuel) :
    piecesWith fuel t = ps := by
  induction h generalizing fuel with
  | slashes n =>
    cases fuel with
    | zero => exact absurd enough (Nat.not_lt_zero _)
    | succ fuel => simp [piecesWith, tagAt?]
  | tag n found _ ih =>
    cases fuel with
    | zero => exact absurd enough (Nat.not_lt_zero _)
    | succ fuel =>
      simp only [List.cons_append, List.length_append, List.length_replicate, List.length_cons]
        at enough
      rw [List.cons_append] at found
      simpa [piecesWith, found] using ih (by omega)
  | char n other none _ ih =>
    cases fuel with
    | zero => exact absurd enough (Nat.not_lt_zero _)
    | succ fuel =>
      simp only [List.length_append, List.length_replicate, List.length_cons] at enough
      simpa [piecesWith, other, none] using ih (by omega)

theorem Cuts.pieces_eq (h : Cuts t ps) : pieces t = ps := h.piecesWith_eq (Nat.lt_succ_self _)

/-- A piece that is shown as text, and holds no joiner. -/
def Piece.IsShown : Piece → Prop
  | .plain c => c ≠ Cell.joiner
  | .tag slashes content => slashes % 2 = 1 ∧ Cell.joiner ∉ content

theorem isShown_of_mem_slashes {p : Piece} {n : Nat}
    (h : p ∈ (List.replicate n '\\').map .plain) : p.IsShown := by
  obtain ⟨d, hd, rfl⟩ := List.mem_map.1 h
  rw [List.eq_of_mem_replicate hd]
  exact (by decide : '\\' ≠ Cell.joiner)

/-- The text of some pieces, with the tags among them made text. -/
def escaped (ps : List Piece) : Text := ps.flatMap escapePiece

theorem escaped_append (ps qs : List Piece) : escaped (ps ++ qs) = escaped ps ++ escaped qs :=
  List.flatMap_append

theorem escaped_map_plain (t : Text) : escaped (t.map .plain) = t := by
  rw [escaped, List.flatMap_map]
  exact List.flatMap_singleton' _
theorem escaped_slashes (n : Nat) :
    escaped ((List.replicate n '\\').map .plain) = List.replicate n '\\' :=
  escaped_map_plain _

theorem escaped_plain (c : Char) (ps : List Piece) :
    escaped (.plain c :: ps) = c :: escaped ps := rfl

theorem escaped_tag (n : Nat) (content : Text) (ps : List Piece) :
    escaped (.tag n content :: ps) =
      List.replicate (2 * n + 1) '\\' ++ ('[' :: content ++ ']' :: escaped ps) := by
  simp [escaped, escapePiece]

theorem bracket?_append (a b : Text) : bracket? (a ++ b) = (bracket? a).or (bracket? b) :=
  List.find?_append

theorem bracket?_slashes (n : Nat) : bracket? (List.replicate n '\\') = none := by
  rw [bracket?, List.find?_eq_none]
  intro d hd
  rw [List.eq_of_mem_replicate hd]
  decide

/-- Escaping adds backslashes only. -/
theorem Cuts.bracket?_escaped (h : Cuts t ps) : bracket? (escaped ps) = bracket? t := by
  induction h with
  | slashes n => rw [escaped_slashes]
  | tag n _ _ _ =>
    rw [escaped_tag, bracket?_append, bracket?_append (List.replicate n _), bracket?_slashes,
      bracket?_slashes]
    rfl
  | char n _ _ _ ih =>
    rw [escaped_append, escaped_slashes, escaped_plain, bracket?_append, bracket?_append]
    simp only [bracket?, List.find?_cons] at ih ⊢
    rw [ih]

/-- What does not open a tag does not when it is escaped, unless what is behind it does. -/
theorem Cuts.not_opensTag (h : Cuts t ps) (none : ¬ OpensTag t)
    (closed : bracket? behind ≠ some ']') : ¬ OpensTag (escaped ps ++ behind) := by
  rintro ⟨start, bracket⟩
  rw [bracket?_append, Option.or_eq_some_iff] at bracket
  have first : bracket? t = some ']' := by
    rw [← h.bracket?_escaped]
    exact bracket.resolve_right fun later => closed later.2
  -- the character at the front of both texts is the same, or a backslash
  cases h with
  | slashes n =>
    rw [bracket?_slashes] at first
    cases first
  | tag n _ _ =>
    rw [bracket?_append, bracket?_slashes] at first
    cases first
  | char n _ _ _ =>
    cases n with
    | zero => exact none ⟨start, first⟩
    | succ n => exact absurd (show isTagStart '\\' = true from start) (by decide)

theorem tagAt?_of_ne (other : c ≠ '[') (t : Text) : tagAt? (c :: t) = none := by
  unfold tagAt?
  split
  · rename_i split
    exact absurd (List.cons.inj split).1 other
  · rfl

theorem Cuts.escaped_before_tag (h : Cuts t ps) (free : Cell.joiner ∉ t) (j : Nat)
    (found : tagAt? ('[' :: content ++ ']' :: rest) = some (content, rest)) (hq : Cuts rest qs) :
    ∃ before n, Cuts (escaped ps ++ (List.replicate j '\\' ++ ('[' :: content ++ ']' :: rest)))
      (before ++ .tag n content :: qs) ∧ ∀ p ∈ before, p.IsShown := by
  induction h with
  | slashes n =>
    refine ⟨[], n + j, ?_, List.forall_mem_nil _⟩
    rw [escaped_slashes, ← List.append_assoc, List.replicate_append_replicate]
    exact .tag (n + j) found hq
  | @tag n own rest' ps ownFound _ ih =>
    simp only [List.mem_append, List.mem_cons, not_or] at free
    obtain ⟨-, ⟨-, inside⟩, -, later⟩ := free
    obtain ⟨before, m, cuts, shown⟩ := ih later
    refine ⟨.tag (2 * n + 1) own :: before, m, ?_, List.forall_mem_cons.2 ⟨?_, shown⟩⟩
    · have cuts := Cuts.tag (2 * n + 1) (tagAt?_append ownFound _) cuts
      simpa [escaped_tag] using cuts
    · exact ⟨by omega, inside⟩
  | @char n c rest' ps other none h ih =>
    simp only [List.mem_append, List.mem_cons, not_or] at free
    obtain ⟨-, hc, later⟩ := free
    obtain ⟨before, m, cuts, shown⟩ := ih later
    refine ⟨(List.replicate n '\\').map .plain ++ .plain c :: before, m, ?_, ?_⟩
    · have still : tagAt? (c ::
          (escaped ps ++ (List.replicate j '\\' ++ ('[' :: content ++ ']' :: rest)))) = .none := by
        by_cases opening : c = '['
        · rw [opening, tagAt?_eq_none_iff] at none ⊢
          refine h.not_opensTag none ?_
          rw [bracket?_append, bracket?_slashes]
          exact fun closed => absurd (Option.some.inj closed) (by decide)
        · exact tagAt?_of_ne opening _
      have cuts := Cuts.char n other still cuts
      simpa only [escaped_append, escaped_slashes, escaped_plain, List.append_assoc,
        List.cons_append] using cuts
    · intro p hp
      rcases List.mem_append.1 hp with hp | hp
      · exact isShown_of_mem_slashes hp
      · rcases List.mem_cons.1 hp with rfl | hp
        · exact Ne.symm hc
        · exact shown p hp

/-- Escaping may put one more backslash behind the text. -/
theorem escape_eq (t : Text) : ∃ n, escape t = escaped (pieces t) ++ List.replicate n '\\' := by
  unfold escape
  simp only
  split
  · exact ⟨1, rfl⟩
  · exact ⟨0, (List.append_nil _).symm⟩

/-- A text without an opening bracket comes apart into its characters. -/
theorem cuts_map_plain (h : '[' ∉ t) : Cuts t (t.map .plain) := by
  induction t with
  | nil => exact .slashes 0
  | cons c rest ih =>
    have others : '[' ∉ rest := List.not_mem_of_not_mem_cons h
    by_cases slash : c = '\\'
    · -- the backslash joins those that the rest begins with
      subst slash
      generalize split : rest.map Piece.plain = ps at ih
      rw [List.map_cons, split]
      cases ih others with
      | slashes n => exact .slashes (n + 1)
      | tag n _ _ => simp at others
      | char n other none cuts => exact .char (n + 1) other none cuts
    · have opening : c ≠ '[' := fun same => h (same ▸ List.mem_cons_self)
      exact .char 0 slash (tagAt?_of_ne opening rest) (ih others)

end PciInventory.Markup
