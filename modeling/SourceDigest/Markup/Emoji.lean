import SourceDigest.Markup.EmojiNames
import SourceDigest.Text.Cut
import SourceDigest.Text.Lower

/-!
Emoji written by name. A name between two colons becomes its emoji; `-text` or `-emoji` after the
name asks for one of the two forms of the emoji.
-/

namespace SourceDigest.Markup

def emojiNamed? (name : List Char) : Option (List Char) :=
  emojiLines.findSome? fun line =>
    (Text.split ' ' line.toList).findSome? fun entry =>
      if (name ++ ['=']).isPrefixOf entry then some (entry.drop (name.length + 1)) else none

/-- Endings of a name that ask for a form, each with the selector of the form. -/
def emojiForms : List (List Char × Char) :=
  [("-text".toList, '\ufe0e'), ("-emoji".toList, '\ufe0f')]

/-- The emoji of what stands between two colons. -/
def emoji? (inside : List Char) : Option (List Char) :=
  match emojiForms.find? fun form => form.1.isSuffixOf inside with
  | some (ending, selector) =>
    (emojiNamed? (Text.lower (inside.take (inside.length - ending.length)))).map (· ++ [selector])
  | none => emojiNamed? (Text.lower inside)

/-- What stands between a colon, passed already, and the next one on the same word. -/
def toColon? (text : List Char) : Option (List Char) :=
  let inside := text.takeWhile fun c => c != ':' && !Text.isBlank c
  if (text.drop inside.length).head? = some ':' then some inside else none

/-- Text with its emoji in place of their names. What stands between two colons and names no
emoji stays, and its last colon does not open another name. -/
def replaceEmoji (text : List Char) : List Char :=
  match text with
  | [] => []
  | c :: rest =>
    match (if c = ':' then toColon? rest else none) with
    | some inside =>
      (emoji? inside).getD (':' :: inside ++ [':']) ++
        replaceEmoji (rest.drop (inside.length + 1))
    | none => c :: replaceEmoji rest
  termination_by text.length
  decreasing_by all_goals simp [List.length_drop]; try omega

end SourceDigest.Markup
