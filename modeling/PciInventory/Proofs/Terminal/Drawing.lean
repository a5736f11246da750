import Mathlib.Data.List.Chain
import Mathlib.Data.List.SplitBy
import PciInventory.Proofs.FileTree.Listing
import PciInventory.Proofs.Terminal.Cutting
import PciInventory.Terminal.Printing

/-!
# What can be drawn

A passage is laid out and drawn without a fault if no two joiners stand side by side in it and the
colours of its styles can be mixed. Every step of the layout keeps to that: it takes stretches out
of the text, or puts spaces behind them, and gives no stretch another style.

Nothing is said of where the lines are broken.
-/
namespace PciInventory

namespace Text

/-- A text in which no two joiners stand side by side. -/
def JoinersApart (t : Text) : Prop :=
  t.IsChain fun c d => ¬ (c = Cell.joiner ∧ d = Cell.joiner)

variable {a b t : Text}

theorem joinersApart_nil : JoinersApart [] := .nil

theorem JoinersApart.within (h : JoinersApart t) (inside : a <:+: t) : JoinersApart a := by
  obtain ⟨before, behind, rfl⟩ := inside
  exact (List.IsChain.left_of_append h).right_of_append

theorem JoinersApart.append (ha : JoinersApart a) (hb : JoinersApart b)
    (ends : a.getLast? ≠ some Cell.joiner) : JoinersApart (a ++ b) := by
  refine List.IsChain.append ha hb ?_
  rintro c hc d - ⟨rfl, -⟩
  exact ends hc

theorem JoinersApart.append_replicate (h : JoinersApart t) {c : Char} (hc : c ≠ Cell.joiner)
    (n : Nat) : JoinersApart (t ++ List.replicate n c) := by
  refine List.IsChain.append h (List.isChain_replicate_of_rel n fun both => hc both.1) ?_
  rintro b - d hd ⟨-, rfl⟩
  exact hc (List.eq_of_mem_replicate (List.mem_of_head? hd)).symm

theorem JoinersApart.front (h : JoinersApart t) : ¬ [Cell.joiner, Cell.joiner] <+: t := by
  rintro ⟨rest, rfl⟩
  exact (List.isChain_cons_cons.1 h).1 ⟨rfl, rfl⟩

theorem infix_of_mem_splitOn {c : Char} (h : a ∈ t.splitOn c) : a <:+: t := by
  have between (ws : List Text) (hw : a ∈ ws) : a ∈ ws.intersperse [c] := by
    induction ws with
    | nil => cases hw
    | cons first rest ih =>
      cases rest with
      | nil => exact hw
      | cons second rest =>
        rw [List.intersperse_cons_cons]
        rcases List.mem_cons.1 hw with rfl | hw
        · exact List.mem_cons_self
        · exact List.mem_cons_of_mem _ (List.mem_cons_of_mem _ (ih hw))
  have whole : ((t.splitOn c).intersperse [c]).flatten = t := List.intercalate_splitOn c
  rw [← whole]
  exact List.infix_of_mem_flatten (between _ h)

end Text

open Text

/-- A passage that can be laid out and drawn. -/
structure Passage.IsDrawable (p : Passage) : Prop where
  apart : JoinersApart p.text
  mixable : Markup.isMixable p = true

namespace Passage
variable {p q : Passage}

/-- A passage whose stretches have styles of another's. -/
def KeepsStyles (q p : Passage) : Prop := ∀ s ∈ q.spans, ∃ s' ∈ p.spans, s'.style = s.style

theorem KeepsStyles.isMixable (h : q.KeepsStyles p) (hp : Markup.isMixable p = true) :
    Markup.isMixable q = true := by
  simp only [Markup.isMixable, List.all_eq_true] at hp ⊢
  intro s hs
  obtain ⟨s', hs', same⟩ := h s hs
  rw [← same]
  exact hp s' hs'

theorem KeepsStyles.refl (p : Passage) : p.KeepsStyles p := fun s hs => ⟨s, hs, rfl⟩

/-- Spans that are each changed or dropped keep their styles, if each change does. -/
theorem keepsStyles_of_filterMap {change : Span → Option Span} {text : Text}
    (keeps : ∀ s s', change s = some s' → s'.style = s.style) :
    (⟨text, p.spans.filterMap change⟩ : Passage).KeepsStyles p := by
  intro s' hs'
  obtain ⟨s, hs, changed⟩ := List.mem_filterMap.1 hs'
  exact ⟨s, hs, (keeps s s' changed).symm⟩

theorem style_between? {first last : Nat} {s s' : Span} (h : s.between? first last = some s') :
    s'.style = s.style := by
  unfold Span.between? at h
  split at h
  · cases h
    rfl
  · cases h

theorem style_before? {last : Nat} {s s' : Span} (h : s.before? last = some s') :
    s'.style = s.style := by
  unfold Span.before? at h
  split at h
  · cases h
    rfl
  · cases h

theorem map_text_piecesFrom (p : Passage) (gap first : Nat) (ts : List Text) :
    (p.piecesFrom gap first ts).map text = ts := by
  induction ts generalizing first with
  | nil => rfl
  | cons piece rest ih => rw [piecesFrom, List.map_cons, ih]

theorem keepsStyles_of_mem_piecesFrom {gap first : Nat} {ts : List Text}
    (h : q ∈ p.piecesFrom gap first ts) : q.KeepsStyles p := by
  induction ts generalizing first with
  | nil => cases h
  | cons piece rest ih =>
    rcases List.mem_cons.1 h with rfl | h
    · exact keepsStyles_of_filterMap fun _ _ => style_between?
    · exact ih h

/-- A passage stays in one piece, or its pieces have the given texts. -/
theorem pieces_cases (p : Passage) (gap : Nat) (ts : List Text) :
    p.pieces gap ts = [p] ∨ p.pieces gap ts = p.piecesFrom gap 0 ts := by
  unfold pieces
  split
  · exact .inl rfl
  · exact .inr rfl

/-- The pieces of a drawable passage are drawable if their texts keep joiners apart. -/
theorem IsDrawable.pieces (h : p.IsDrawable) {gap : Nat} {ts : List Text}
    (apart : ∀ t ∈ ts, JoinersApart t) : ∀ q ∈ p.pieces gap ts, q.IsDrawable := by
  intro q hq
  rcases pieces_cases p gap ts with whole | pieces
  · rw [whole] at hq
    rw [List.mem_singleton.1 hq]
    exact h
  · rw [pieces] at hq
    have text : q.text ∈ ts := by
      rw [← map_text_piecesFrom p gap 0 ts]
      exact List.mem_map_of_mem hq
    exact ⟨apart _ text, (keepsStyles_of_mem_piecesFrom hq).isMixable h.mixable⟩

theorem IsDrawable.lines (h : p.IsDrawable) : ∀ q ∈ p.lines, q.IsDrawable :=
  h.pieces fun _ ht => h.apart.within (infix_of_mem_splitOn ht)

theorem IsDrawable.crop (h : p.IsDrawable) (n : Nat) : (p.crop n).IsDrawable :=
  ⟨h.apart.within (List.take_prefix n p.text).isInfix,
    (keepsStyles_of_filterMap fun _ _ => style_before?).isMixable h.mixable⟩

theorem IsDrawable.append (hp : p.IsDrawable) (hq : q.IsDrawable)
    (ends : p.text.getLast? ≠ some Cell.joiner) : (p.append q).IsDrawable := by
  refine ⟨hp.apart.append hq.apart ends, ?_⟩
  simp only [Markup.isMixable, Passage.append, List.all_append, List.all_map, Bool.and_eq_true]
  exact ⟨hp.mixable, hq.mixable⟩

/-- Passages one behind the other are drawable together if none but the last ends in a joiner. -/
theorem isDrawable_foldr_append {ps : List Passage} (each : ∀ p ∈ ps, p.IsDrawable)
    (ends : ∀ p ∈ ps.dropLast, p.text.getLast? ≠ some Cell.joiner) :
    (ps.foldr Passage.append ⟨[], []⟩).IsDrawable := by
  induction ps with
  | nil => exact ⟨joinersApart_nil, rfl⟩
  | cons p rest ih =>
    obtain ⟨hp, each⟩ := List.forall_mem_cons.1 each
    cases rest with
    | nil =>
      have alone : [p].foldr Passage.append ⟨[], []⟩ = p := by simp [Passage.append]
      rw [alone]
      exact hp
    | cons q rest =>
      rw [List.dropLast_cons_cons] at ends
      obtain ⟨hend, ends⟩ := List.forall_mem_cons.1 ends
      exact hp.append (ih each ends) hend

end Passage

namespace Cell

def Splitter.characters (s : Splitter) : Text := s.clusters.reverse.flatMap Cluster.characters

theorem Splitter.characters_attach (s : Splitter) (c : Char) :
    (s.attach c).characters = s.characters ++ [c] := by
  unfold attach characters
  cases s.clusters <;> simp

theorem Splitter.characters_widen (s : Splitter) : s.widen.characters = s.characters := by
  unfold widen
  cases started : s.clusters <;> simp [characters, started]

theorem Splitter.characters_feed (s : Splitter) (c : Char) :
    (s.feed c).characters = s.characters ++ [c] := by
  unfold feed
  split
  · exact characters_attach s c
  · split
    · exact characters_attach s c
    · split
      · split
        · rw [characters_widen, characters_attach]
        · exact characters_attach s c
      · split
        · exact characters_attach s c
        · simp [characters]

/-- The clusters of a text have all of its characters. -/
theorem flatMap_characters_clusters (t : Text) :
    (clusters t).flatMap Cluster.characters = t := by
  have from_any (s : Splitter) : (t.foldl Splitter.feed s).characters = s.characters ++ t := by
    induction t generalizing s with
    | nil => simp
    | cons c rest ih => simp [ih, Splitter.characters_feed]
  exact from_any ⟨[], none, false⟩

end Cell

namespace Layout
variable {p : Passage} {width : Nat} {line : Text}

open Passage

theorem getLast?_append_space (t : Text) (n : Nat) :
    (t ++ [' '] ++ List.replicate n ' ').getLast? ≠ some Cell.joiner := by
  intro last
  rw [List.append_assoc, List.getLast?_append_of_ne_nil _ (by simp)] at last
  rcases List.mem_append.1 (List.mem_of_getLast? last) with space | space
  · exact absurd space (by decide)
  · exact absurd (List.eq_of_mem_replicate space) (by decide)

theorem isDrawable_fillPart (h : p.IsDrawable) : (fillPart p).IsDrawable := by
  unfold fillPart
  split
  · constructor
    · have front : JoinersApart p.text.dropLast := h.apart.within (List.dropLast_prefix _).isInfix
      exact (front.append_replicate (by decide) 1).append_replicate (by decide) _
    · refine KeepsStyles.isMixable ?_ h.mixable
      intro s hs
      obtain ⟨s', hs', rfl⟩ := List.mem_map.1 hs
      exact ⟨s', hs', by split <;> rfl⟩
  · exact h

theorem getLast?_fillPart (tab : p.text.getLast? = some '\t') :
    (fillPart p).text.getLast? ≠ some Cell.joiner := by
  unfold fillPart
  rw [if_pos tab]
  exact getLast?_append_space _ _

theorem tabParts_eq (line : Text) : ∃ parts last,
    tabParts line = parts.map (· ++ ['\t']) ++ [last] ∧ ∀ t ∈ last :: parts, t <:+: line := by
  have pieces : (line.splitOn '\t').reverse ≠ [] := by
    rw [Ne, List.reverse_eq_nil_iff]
    exact List.splitOn_ne_nil '\t' line
  obtain ⟨last, parts, split⟩ := List.exists_cons_of_ne_nil pieces
  refine ⟨parts.reverse, last, ?_, fun t ht => ?_⟩
  · rw [tabParts, split]
    simp
  · rw [List.mem_cons, List.mem_reverse, ← List.mem_cons, ← split, List.mem_reverse] at ht
    exact infix_of_mem_splitOn ht

theorem isDrawable_expandTabs (h : p.IsDrawable) : (expandTabs p).IsDrawable := by
  unfold expandTabs
  split
  · obtain ⟨parts, last, split, inside⟩ := tabParts_eq p.text
    have apart : ∀ t ∈ tabParts p.text, JoinersApart t := by
      intro t ht
      rw [split] at ht
      rcases List.mem_append.1 ht with ht | ht
      · obtain ⟨part, hp, rfl⟩ := List.mem_map.1 ht
        have before := h.apart.within (inside part (List.mem_cons_of_mem _ hp))
        exact before.append_replicate (by decide) 1
      · rw [List.mem_singleton.1 ht]
        exact h.apart.within (inside last List.mem_cons_self)
    have tabs : ∀ q ∈ (p.pieces 0 (tabParts p.text)).dropLast, q.text.getLast? = some '\t' := by
      intro q hq
      rcases pieces_cases p 0 (tabParts p.text) with whole | pieces
      · rw [whole] at hq
        cases hq
      · have text : q.text ∈ (tabParts p.text).dropLast := by
          rw [← map_text_piecesFrom p 0 0 (tabParts p.text), ← List.map_dropLast, ← pieces]
          exact List.mem_map_of_mem hq
        rw [split, List.dropLast_concat] at text
        obtain ⟨part, -, same⟩ := List.mem_map.1 text
        rw [← same, List.getLast?_concat]
    apply isDrawable_foldr_append
    · intro q hq
      obtain ⟨part, hp, rfl⟩ := List.mem_map.1 hq
      exact isDrawable_fillPart (h.pieces apart part hp)
    · intro q hq
      rw [← List.map_dropLast] at hq
      obtain ⟨part, hp, rfl⟩ := List.mem_map.1 hq
      exact getLast?_fillPart (tabs part hp)
  · exact h

/-- What has been put into a filling: the full lines and the present one. -/
def Filling.text (f : Filling) : Text := f.full.reverse.flatten ++ f.present

theorem Filling.text_startLine (f : Filling) (t : Text) : (f.startLine t).text = f.text ++ t := by
  unfold startLine
  split
  · rename_i empty
    simp [text, empty]
  · simp [text]

theorem Filling.text_foldl_startLine (f : Filling) (ts : List Text) :
    (ts.foldl startLine f).text = f.text ++ ts.flatten := by
  induction ts generalizing f with
  | nil => simp
  | cons t rest ih => simp [ih, text_startLine]

theorem text_chop (width : Nat) (cs : List Cell.Cluster) :
    (chop width cs).text = cs.flatMap Cell.Cluster.characters := by
  have from_any (f : Filling) : (cs.foldl (fun f c =>
      if width < f.cells + c.cells then ⟨f.present :: f.full, c.characters, c.cells⟩
      else { f with present := f.present ++ c.characters, cells := f.cells + c.cells }) f).text =
        f.text ++ cs.flatMap Cell.Cluster.characters := by
    induction cs generalizing f with
    | nil => simp
    | cons c rest ih =>
      rw [List.foldl_cons, ih]
      split <;> simp [Filling.text]
  exact from_any ⟨[], [], 0⟩

theorem Filling.text_addWord (width : Nat) (f : Filling) (word : Text) :
    (f.addWord width word).text = f.text ++ word := by
  unfold addWord
  simp only
  split
  · simp [text]
  · split
    · rw [text_startLine, text_foldl_startLine, List.append_assoc]
      have chopped := text_chop width (Cell.clusters word)
      rw [Cell.flatMap_characters_clusters] at chopped
      exact congrArg (f.text ++ ·) chopped
    · split
      · simp [text]
      · exact text_startLine f word

theorem flatten_wordsWithBlanks (filled : wordsWithBlanks line ≠ []) :
    (wordsWithBlanks line).flatten = line := by
  have whole := List.flatten_splitBy (fun a b => !(isBlank a && !isBlank b)) line
  unfold wordsWithBlanks at filled ⊢
  split at filled
  · exact absurd rfl filled
  · rename_i only split
    rw [split] at whole
    split at filled
    · exact absurd rfl filled
    · rename_i some
      rw [if_neg some]
      exact whole
  · rename_i first second rest split
    rw [split] at whole
    split
    · simpa using whole
    · exact whole

/-- The texts that a line is broken into are the line, one behind the other. -/
theorem flatten_brokenText (width : Nat) (line : Text) :
    (brokenText width line).flatten = line := by
  unfold brokenText
  simp only
  split
  · simp
  · rename_i filled
    have from_any (f : Filling) (ws : List Text) :
        (ws.foldl (Filling.addWord width) f).text = f.text ++ ws.flatten := by
      induction ws generalizing f with
      | nil => simp
      | cons w rest ih => simp [ih, Filling.text_addWord]
    have whole := from_any ⟨[], [], 0⟩ (wordsWithBlanks line)
    rw [flatten_wordsWithBlanks filled] at whole
    simpa [Filling.text] using whole

theorem fitClusters_eq (width : Nat) (cs : List Cell.Cluster) : ∃ front n,
    fitClusters width cs = front ++ List.replicate n ' ' ∧
      front <+: cs.flatMap Cell.Cluster.characters := by
  induction cs generalizing width with
  | nil => exact ⟨[], 0, rfl, List.nil_prefix⟩
  | cons c rest ih =>
    rw [fitClusters]
    split
    · obtain ⟨front, n, fit, inside⟩ := ih (width - c.cells)
      refine ⟨c.characters ++ front, n, by rw [fit, List.append_assoc], ?_⟩
      rw [List.flatMap_cons]
      exact (List.prefix_append_right_inj _).2 inside
    · exact ⟨[], width, rfl, List.nil_prefix⟩

/-- A text that keeps joiners apart can be cut off, and still does. -/
theorem exists_cut {t : Text} (h : JoinersApart t) (width : Nat) :
    ∃ shorter, cut width t = .ok shorter ∧ JoinersApart shorter := by
  obtain ⟨shorter, done⟩ := exists_cut_eq_ok width h.front
  refine ⟨shorter, done, ?_⟩
  unfold cut at done
  split at done
  · cases done
    exact h
  · simp only at done
    split at done
    · cases done
    · split at done
      · cases done
      · cases done
        obtain ⟨front, n, fit, inside⟩ := fitClusters_eq width (Cell.clusters t)
        rw [Cell.flatMap_characters_clusters] at inside
        rw [fit]
        exact (h.within inside.isInfix).append_replicate (by decide) n

theorem isDrawable_dropExcessBlanks (h : p.IsDrawable) :
    (dropExcessBlanks width p).IsDrawable := by
  unfold dropExcessBlanks
  simp only
  split
  · exact h
  · exact h.crop _

theorem exists_cutLine (h : p.IsDrawable) (width : Nat) :
    ∃ q, cutLine width p = .ok q ∧ q.IsDrawable := by
  obtain ⟨shorter, done, apart⟩ := exists_cut h.apart width
  rw [cutLine, done]
  refine ⟨_, rfl, ?_⟩
  dsimp only
  split
  · exact ⟨apart, (h.crop shorter.length).mixable⟩
  · exact ⟨apart, h.mixable⟩

/-- Steps that each give a result with a property give results with it. -/
theorem exists_mapM {A B E : Type} {f : A → Except E B} {P : B → Prop} {as : List A}
    (h : ∀ a ∈ as, ∃ b, f a = .ok b ∧ P b) : ∃ bs, as.mapM f = .ok bs ∧ ∀ b ∈ bs, P b := by
  induction as with
  | nil => exact ⟨[], rfl, by simp⟩
  | cons a rest ih =>
    obtain ⟨⟨b, done, hb⟩, others⟩ := List.forall_mem_cons.1 h
    obtain ⟨bs, done', hbs⟩ := ih others
    refine ⟨b :: bs, ?_, List.forall_mem_cons.2 ⟨hb, hbs⟩⟩
    rw [List.mapM_cons, done, done']
    rfl

theorem exists_breakLine (h : p.IsDrawable) (width : Nat) :
    ∃ ls, breakLine width p = .ok ls ∧ ∀ l ∈ ls, l.IsDrawable := by
  unfold breakLine
  split
  · exact ⟨[p], rfl, by simpa using h⟩
  · have inside : ∀ t ∈ brokenText width p.text, JoinersApart t := by
      intro t ht
      have part := List.infix_of_mem_flatten ht
      rw [flatten_brokenText] at part
      exact h.apart.within part
    exact exists_mapM fun l hl =>
      exists_cutLine (isDrawable_dropExcessBlanks (h.pieces inside l hl)) width

theorem exists_lines (h : p.IsDrawable) :
    ∃ ls, Layout.lines p = .ok ls ∧ ∀ l ∈ ls, l.IsDrawable := by
  obtain ⟨parts, done, each⟩ := exists_mapM fun l hl =>
    exists_breakLine (isDrawable_expandTabs (h.lines l hl)) lineWidth
  refine ⟨parts.flatten, by rw [Layout.lines, done]; rfl, fun l hl => ?_⟩
  obtain ⟨part, hp, hl⟩ := List.mem_flatten.1 hl
  exact each part hp l hl

theorem exists_fitParts {parts : List Text} (h : ∀ t ∈ parts, JoinersApart t) (width : Nat) :
    ∃ t, fitParts width parts = .ok t := by
  induction parts generalizing width with
  | nil => exact ⟨[], rfl⟩
  | cons part rest ih =>
    obtain ⟨hp, others⟩ := List.forall_mem_cons.1 h
    rw [fitParts]
    split
    · obtain ⟨t, done⟩ := ih others (width - Cell.count part)
      exact ⟨part ++ t, by rw [done]; rfl⟩
    · exact exists_cut_eq_ok width hp.front

theorem flatten_partsFrom (isEdge : Nat → Bool) (n : Nat) (t : Text) :
    (Passage.partsFrom isEdge n t).flatten = t := by
  induction t generalizing n with
  | nil => rfl
  | cons c rest ih =>
    have behind := ih (n + 1)
    rw [partsFrom]
    split
    · rename_i none
      rw [none] at behind
      simp [← behind]
    · rename_i part parts split
      rw [split] at behind
      rw [← behind]
      split <;> simp

theorem exists_drawLine (h : p.IsDrawable) (width : Nat) : ∃ t, drawLine width p = .ok t := by
  unfold drawLine
  simp only
  split
  · refine exists_fitParts (fun t ht => ?_) width
    have part := List.infix_of_mem_flatten ht
    rw [Passage.parts, flatten_partsFrom] at part
    exact h.apart.within part
  · exact ⟨p.text, rfl⟩

theorem draw_of_isDrawable {ls : List Passage} (h : ∀ l ∈ ls, l.IsDrawable) :
    (draw ls).2 = none := by
  induction ls with
  | nil => rfl
  | cons l rest ih =>
    obtain ⟨hl, others⟩ := List.forall_mem_cons.1 h
    obtain ⟨t, drawn⟩ := exists_drawLine hl lineWidth
    simp only [draw, drawn]
    exact ih others

end Layout

/-- Setting off what looks like a value changes nothing in what can be drawn. -/
theorem Highlight.isDrawable_mark {p : Passage} (h : p.IsDrawable) : (mark p).IsDrawable := by
  unfold mark
  split
  · refine ⟨h.apart, ?_⟩
    simp only [Markup.isMixable, List.all_append, List.all_map, Bool.and_eq_true]
    refine ⟨?_, h.mixable⟩
    rw [List.all_eq_true]
    exact fun _ _ => rfl
  · exact h

theorem Terminal.message_of_isDrawable {t : Text} {p : Passage} (read : Markup.passage t = .ok p)
    (h : p.IsDrawable) : (message t).2 = none := by
  obtain ⟨ls, laid, each⟩ := Layout.exists_lines (Highlight.isDrawable_mark h)
  have mixable : ls.all Markup.isMixable = true :=
    List.all_eq_true.2 fun l hl => (each l hl).mixable
  simp only [message, read, laid, mixable, if_true, Prod.map_snd, Layout.draw_of_isDrawable each]
  rfl

end PciInventory
