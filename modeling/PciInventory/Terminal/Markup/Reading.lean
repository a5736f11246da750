import PciInventory.Terminal.Action
import PciInventory.Terminal.Emoji
import PciInventory.Terminal.Fault
import PciInventory.Terminal.Markup
import PciInventory.Terminal.Passage
import PciInventory.Terminal.Style

/-!
# Reading tags

What a text with style tags says: the text without the tags, and the stretches between tags that
belong together. A tag opens a style or an action, which lasts to the tag that closes it or to the
end; a tag without a name closes what was opened last. A style can be closed under any writing that
means the same. Between the tags a backslash in front of a bracket is left out, the names of
pictures give way to the pictures, and characters that would move the cursor are dropped.
-/
namespace PciInventory.Markup

/-- A tag that is open: a style or an action, in normal form, what is behind an equals sign, and
where in the text the tag stands. -/
structure OpenTag where
  name : Text
  parameters : Option Text
  start : Nat
  deriving DecidableEq

def OpenTag.style (tag : OpenTag) : Text :=
  match tag.parameters with
  | none => tag.name
  | some parameters => tag.name ++ ' ' :: parameters

/-- A tag's content apart at its first equals sign. -/
def splitTag (content : Text) : Text × Option Text :=
  (content.takeWhile (· != '='), (content.dropWhile (· != '=')).tail?)

def comparable (t : Text) : Except MarkupFault Text :=
  match Style.normalize? t with
  | some t => .ok t
  | none => .error .mixedFromNoNumber

/-- Whether a character would ring the bell or move the cursor. -/
def isControl (c : Char) : Bool :=
  c == '\x07' || c == '\x08' || c == '\x0b' || c == '\x0c' || c == '\r'

/-- What has been read of a text with tags: the open tags, the last one first, and the text without
tags with the stretches between tags. -/
structure Reading where
  opened : List OpenTag
  passage : Passage

/-- The reading after text between two tags. -/
def Reading.show (r : Reading) (t : Text) : Reading :=
  { r with passage.text := r.passage.text ++ (Emoji.replace t).filter (!isControl ·) }

def Reading.setOff (r : Reading) (tag : OpenTag) (style : Option Text) : Reading :=
  { r with passage.spans := ⟨tag.start, r.passage.text.length, style⟩ :: r.passage.spans }

/-- The tag that a name closes. -/
def Reading.closedBy (r : Reading) (name : Text) : Except MarkupFault OpenTag :=
  if name = [] then
    match r.opened with
    | [] => .error .unopenedStyle
    | tag :: _ => .ok tag
  else
    match comparable name with
    | .error e => .error e
    | .ok name =>
      match r.opened.find? fun tag => decide (tag.name = name) with
      | some tag => .ok tag
      | none => .error .unopenedStyle

def Reading.close (r : Reading) (tag : OpenTag) : Except MarkupFault Reading :=
  let r := { r with opened := r.opened.eraseP fun other => decide (other.name = tag.name) }
  if tag.name.head? = some '@' then
    if tag.parameters.all fun t => t.isEmpty || Action.isWritten t then .ok (r.setOff tag none)
    else .error .unreadableAction
  else .ok (r.setOff tag (some tag.style))

def Reading.tag (r : Reading) (content : Text) : Except MarkupFault Reading :=
  match splitTag content with
  | ('/' :: name, _) => (r.closedBy (Text.strip name)).bind r.close
  | (name, parameters) =>
    (comparable name).map fun name =>
      { r with opened := ⟨name, parameters, r.passage.text.length⟩ :: r.opened }

/-- Characters between two tags: a backslash in front of a bracket is not shown. -/
def bare : Text → Text
  | [] => []
  | '\\' :: '[' :: rest => '[' :: bare rest
  | c :: rest => c :: bare rest

/-- The reading after some pieces. Characters are held backwards until a tag or the end. -/
def Reading.pieces (r : Reading) (held : Text) : List Piece → Except MarkupFault Reading
  | [] => .ok (r.show (bare held.reverse))
  | .plain c :: rest => r.pieces (c :: held) rest
  | .tag slashes content :: rest =>
    let r := (r.show (bare held.reverse)).show (List.replicate (slashes / 2) '\\')
    if slashes % 2 = 1 then (r.show ('[' :: content ++ [']'])).pieces [] rest
    else
      match r.tag content with
      | .ok r => r.pieces [] rest
      | .error e => .error e

/-- What a text says. At its end all tags are closed; nothing is done with an action then, which is
taken for a style. -/
def passage (t : Text) : Except MarkupFault Passage :=
  ((⟨[], ⟨[], []⟩⟩ : Reading).pieces [] (Markup.pieces t)).map fun r =>
    (r.opened.foldl (fun r tag => r.setOff tag (some tag.style)) r).passage

/-- Whether the colours of the styles in a passage can be mixed. -/
def isMixable (p : Passage) : Bool :=
  p.spans.all fun s => s.style.all fun words => (Style.normalize? words).isSome

end PciInventory.Markup
