import PciInventory.Terminal.Colour

/-!
# Styles

A style is written as words: attributes, perhaps denied by the word in front of them, a colour, a
colour behind "on" for the ground, and a link. Two writings mean the same style exactly if they are
written alike in normal form, where the attributes have a fixed order and the later of two colours
has won. What is not written as a style is a name, and names are compared without regard to case.
-/
namespace PciInventory

/-- How letters can be drawn. -/
inductive StyleAttribute where
  | bold
  | dim
  | italic
  | underline
  | blink
  | fastBlink
  | reverse
  | conceal
  | strike
  | doubleUnderline
  | frame
  | encircle
  | overline
  deriving DecidableEq

namespace StyleAttribute

def all : List StyleAttribute :=
  [bold, dim, italic, underline, blink, fastBlink, reverse, conceal, strike, doubleUnderline, frame,
    encircle, overline]

def name : StyleAttribute → Text
  | bold => "bold".toList
  | dim => "dim".toList
  | italic => "italic".toList
  | underline => "underline".toList
  | blink => "blink".toList
  | fastBlink => "blink2".toList
  | reverse => "reverse".toList
  | conceal => "conceal".toList
  | strike => "strike".toList
  | doubleUnderline => "underline2".toList
  | frame => "frame".toList
  | encircle => "encircle".toList
  | overline => "overline".toList

def shortName? : StyleAttribute → Option Text
  | bold => some ['b']
  | dim => some ['d']
  | italic => some ['i']
  | underline => some ['u']
  | reverse => some ['r']
  | conceal => some ['c']
  | strike => some ['s']
  | doubleUnderline => some ['u', 'u']
  | overline => some ['o']
  | _ => none

def ofName? (t : Text) : Option StyleAttribute :=
  all.find? fun a => decide (a.name = t) || decide (a.shortName? = some t)

end StyleAttribute

/-- How letters are drawn: the attributes that are asked for or denied, and what else is set. -/
structure Style where
  attributes : StyleAttribute → Option Bool
  colour : Option Text
  ground : Option Text
  link : Option Text

namespace Style

def plain : Style := ⟨fun _ => none, none, none, none⟩

def withAttribute (s : Style) (a : StyleAttribute) (wanted : Bool) : Style :=
  { s with attributes := fun b => if b = a then some wanted else s.attributes b }

/-- A style with what further words set. -/
def readWords (s : Style) : List Text → Except StyleError Style
  | [] => .ok s
  | word :: rest =>
    let small := Text.lower word
    if small = "on".toList then
      match rest with
      | [] => .error .unknownWord
      | word :: rest =>
        match Colour.normalize word with
        | .ok colour => readWords { s with ground := some colour } rest
        | .error e => .error e
    else if small = "not".toList then
      match rest with
      | [] => .error .unknownWord
      | word :: rest =>
        match StyleAttribute.ofName? word with
        | some a => readWords (s.withAttribute a false) rest
        | none => .error .unknownWord
    else if small = "link".toList then
      match rest with
      | [] => .error .unknownWord
      | word :: rest => readWords { s with link := some word } rest
    else match StyleAttribute.ofName? small with
      | some a => readWords (s.withAttribute a true) rest
      | none =>
        match Colour.normalize small with
        | .ok colour => readWords { s with colour := some colour } rest
        | .error e => .error e

def noneWord : Text := "none".toList

def read (t : Text) : Except StyleError Style :=
  if Text.strip t = noneWord then .ok plain else plain.readWords (Text.words t)

def attributeWords (s : Style) (a : StyleAttribute) : List Text :=
  match s.attributes a with
  | some true => [a.name]
  | some false => ["not".toList, a.name]
  | none => []

def words (s : Style) : List Text :=
  StyleAttribute.all.flatMap s.attributeWords ++ s.colour.toList ++
    s.ground.toList.flatMap (fun c => ["on".toList, c]) ++
    s.link.toList.flatMap fun l => ["link".toList, l]

/-- A style in normal form. -/
def text (s : Style) : Text :=
  match s.words with
  | [] => noneWord
  | words => Text.joinWith [' '] words

/-- A style's or a name's text as it is compared; none, if a colour is mixed from no number. -/
def normalize? (t : Text) : Option Text :=
  match read t with
  | .ok s => some s.text
  | .error .unknownWord => some (Text.lower (Text.strip t))
  | .error .mixedFromNoNumber => none

end Style

example : ["b", "Red  bold", "on RED", "uu not i link X", "none"].map (Style.normalize? ·.toList) =
    ["bold", "bold red", "on red", "not italic underline2 link X", "none"].map (some ·.toList) := by
  decide +kernel
example : Style.normalize? "rgb(,1,2)".toList = none := by decide +kernel

end PciInventory
