import ClassSheet.Html.Tag

/-! # Raw text

The content of elements such as `style`, `title` and `script`, in which a `<` begins no markup but
the element's own end tag. A script may hold another script with its end tag inside a comment.

Part of the input layer in the place of an HTML parser (see `ClassSheet.Html.Source`). -/

namespace ClassSheet.Html

open ClassSheet.Text

namespace RawText

/-- Whether a text begins with the lead of a tag, up to case, and the name of the tag ends there. -/
def beginsTag (lead : String) (cs : List Char) : Bool :=
  (cs.take lead.length).map asciiLower == lead.toList &&
    (cs.drop lead.length).head?.any Tag.endsName

/-- A text up to the end tag of an element, and the text from there on. -/
def read (tag : String) : List Char → List Char × List Char
  | [] => ([], [])
  | c :: cs =>
    if c == '<' && beginsTag ("/" ++ tag) cs then ([], c :: cs)
    else
      let (s, rest) := read tag cs
      (c :: s, rest)

/-! ### Scripts -/

/-- What surrounds a place in a script: nothing, a comment, or a script inside a comment. In a
    comment, `dashes` is the number of hyphens right in front of the place. -/
inductive Nesting where
  | plain
  | comment (dashes : Nat)
  | inner (dashes : Nat)
deriving DecidableEq

namespace Nesting

/-- Whether the script can end here. -/
def isOuter : Nesting → Bool
  | .inner _ => false
  | _ => true

/-- What surrounds the place behind a character that is followed by a text. A comment begins with
    `<!--`, whose hyphens count for its end as well, and ends with `-->`. The start tag of a script
    in it begins an inner script, and the next end tag ends the inner script alone. -/
def next (c : Char) (cs : List Char) : Nesting → Nesting
  | .plain => if c == '<' && "!--".toList.isPrefixOf cs then .comment 0 else .plain
  | .comment dashes =>
    if c == '-' then .comment (dashes + 1)
    else if c == '>' && 2 ≤ dashes then .plain
    else if c == '<' && beginsTag "script" cs then .inner 0
    else .comment 0
  | .inner dashes =>
    if c == '-' then .inner (dashes + 1)
    else if c == '>' && 2 ≤ dashes then .plain
    else if c == '<' && beginsTag "/script" cs then .comment 0
    else .inner 0

end Nesting

/-- The text of a script up to its end tag, and the text from there on. -/
def readScript : Nesting → List Char → List Char × List Char
  | _, [] => ([], [])
  | nesting, c :: cs =>
    if c == '<' && nesting.isOuter && beginsTag "/script" cs then ([], c :: cs)
    else
      let (s, rest) := readScript (nesting.next c cs) cs
      (c :: s, rest)

end RawText

end ClassSheet.Html
