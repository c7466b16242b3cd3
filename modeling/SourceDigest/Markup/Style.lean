import SourceDigest.Markup.Colour

/-!
Styles in words, such as `bold red on white`. Every style has one written form, which two texts
share when they mean the same style; a text that means none stands for itself in small letters.
-/

namespace SourceDigest.Markup

/-- Properties that a style switches on or off, in the order in which they are written. -/
def attributes : List String :=
  ["bold", "dim", "italic", "underline", "blink", "blink2", "reverse", "conceal", "strike",
   "underline2", "frame", "encircle", "overline"]

/-- Short names of properties. -/
def shortAttributes : List (String × String) :=
  [("b", "bold"), ("d", "dim"), ("i", "italic"), ("u", "underline"), ("r", "reverse"),
   ("c", "conceal"), ("s", "strike"), ("uu", "underline2"), ("o", "overline")]

def attribute? (word : List Char) : Option String :=
  let name := String.ofList word
  if name ∈ attributes then some name else shortAttributes.lookup name

/-- What a style settles; of several settings of one property the first counts. -/
structure Style where
  settings : List (String × Bool)
  colour : Option (List Char)
  background : Option (List Char)
  link : Option (List Char)
  deriving DecidableEq, Repr, Inhabited

namespace Style

/-- Adds the words of a style from left to right. `on` and `link` take the word after them as it
stands, and so does `not`, which knows properties in small letters only. -/
def addWords (s : Style) : List (List Char) → Except ColourFault Style
  | [] => .ok s
  | word :: rest =>
    let small := Text.lower word
    if small = "on".toList then
      match rest with
      | [] => .error .unknown
      | word :: rest => do
        let background ← Markup.colour word
        { s with background := some background }.addWords rest
    else if small = "not".toList then
      match rest with
      | [] => .error .unknown
      | word :: rest =>
        match attribute? word with
        | some name => { s with settings := (name, false) :: s.settings }.addWords rest
        | none => .error .unknown
    else if small = "link".toList then
      match rest with
      | [] => .error .unknown
      | word :: rest => { s with link := some word }.addWords rest
    else
      match attribute? small with
      | some name => { s with settings := (name, true) :: s.settings }.addWords rest
      | none => do
        let colour ← Markup.colour small
        { s with colour := some colour }.addWords rest

def ofText (text : List Char) : Except ColourFault Style :=
  if Text.strip text = "none".toList then .ok ⟨[], none, none, none⟩
  else addWords ⟨[], none, none, none⟩ (Text.words text)

/-- The words of a style in their order: properties, colour, background and link. -/
def words (s : Style) : List (List Char) :=
  let settings := attributes.filterMap fun name =>
    (s.settings.lookup name).map fun on => (if on then name else "not " ++ name).toList
  settings ++ s.colour.toList ++ (s.background.map fun c => "on ".toList ++ c).toList ++
    (s.link.map fun target => "link ".toList ++ target).toList

/-- The written form of a style. -/
def text (s : Style) : List Char :=
  if s.words.isEmpty then "none".toList else Text.join [' '] s.words

end Style

/-- The written form of what a text means; none if the text is a colour without all its numbers. -/
def styleName? (text : List Char) : Option (List Char) :=
  match Style.ofText text with
  | .ok s => some s.text
  | .error .unknown => some (Text.lower (Text.strip text))
  | .error .noNumber => none

end SourceDigest.Markup
