import ClassSheet.Html.RawText
import ClassSheet.Html.Source

/-! # Tokens of a page

A page cut into doctypes, comments, tags and texts. References are replaced, and the content of
`style`, `script` and the like is a single text.

Part of the input layer in the place of an HTML parser (see `ClassSheet.Html.Source`). -/

namespace ClassSheet.Html

open ClassSheet.Text

/-- A token of a page. -/
inductive Token where
  | doctype
  | comment (s : String)
  | startTag (tag : String) (attributes : Attributes)
  | endTag (tag : String)
  | text (s : String)
deriving DecidableEq

namespace Token

/-! ### Comments -/

/-- A text up to the end of a comment, and the text behind it. -/
def readComment : List Char → List Char × List Char
  | [] | ['-'] | ['-', '-'] | ['-', '-', '!'] => ([], [])
  | '-' :: '-' :: '>' :: rest => ([], rest)
  | '-' :: '-' :: '!' :: '>' :: rest => ([], rest)
  | c :: cs =>
    let (s, rest) := readComment cs
    (c :: s, rest)

/-- A comment behind `<!--`, which two short forms end at once, and the text behind it. -/
def comment? : List Char → Token × List Char
  | '>' :: rest => (.comment "", rest)
  | '-' :: '>' :: rest => (.comment "", rest)
  | cs =>
    let (s, rest) := readComment cs
    (.comment (String.ofList (withoutNull s)), rest)

/-- Markup that is no tag, as a comment up to the next closing bracket, and the text behind it. -/
def bogusComment (cs : List Char) : Token × List Char :=
  let text := cs.takeWhile (· != '>')
  (.comment (String.ofList (withoutNull text)), (cs.dropWhile (· != '>')).drop 1)

/-! ### The content of elements -/

/-- The tags whose content is a text without references; so is that of a `script`. -/
def rawTags : List String := ["style", "xmp", "iframe", "noembed", "noframes", "noscript"]

/-- The tags whose content is a text with references. -/
def plainTags : List String := ["title", "textarea"]

/-- The tags behind which a line feed is passed over. -/
def lineTags : List String := ["pre", "listing", "textarea"]

/-- A text without a line feed at its beginning, be it written as such or by a reference with its
    semicolon. -/
def afterLine : List Char → List Char
  | '\n' :: rest => rest
  | '&' :: rest =>
    match Reference.ofChars? .text rest with
    | some r => if r.closed && r.chars == ['\n'] then rest.drop r.length else '&' :: rest
    | none => '&' :: rest
  | cs => cs

/-- A text as a token, unless it is empty. -/
def textTokens (cs : List Char) : List Token :=
  if cs.isEmpty then [] else [.text (String.ofList cs)]

/-- The tokens of the content of an element as far as it is raw, and the text behind it. A script
    comes with its end tag, because reading starts anew behind it, as it does behind a `meta` that
    names the encoding of the page. A tag has `fuel` attributes at most. -/
def content (fuel : Nat) (tag : String) (attributes : Attributes) (cs : List Char) :
    List Token × List Char :=
  let cs := if lineTags.contains tag then afterLine cs else cs
  if tag == "meta" && attributes.any (·.1 == "charset") then ([], Source.afterMark cs)
  else if tag == "script" then
    let (s, rest) := RawText.readScript .plain cs
    match Tag.read? fuel (rest.drop "</".length) with
    | some (_, _, rest) => (textTokens (withoutNull s) ++ [.endTag tag], Source.afterMark rest)
    | none => (textTokens (withoutNull s), [])
  else if rawTags.contains tag then
    let (s, rest) := RawText.read tag cs
    (textTokens (withoutNull s), rest)
  else if plainTags.contains tag then
    let (s, rest) := RawText.read tag cs
    (textTokens (Reference.decode .text (withoutNull s)), rest)
  else ([], cs)

/-! ### Tokens of a page -/

/-- Whether a text begins with a word, up to case. -/
def beginsWith (word : String) (cs : List Char) : Bool :=
  (cs.take word.length).map asciiLower == word.toList

/-- The tokens behind a `<`, and the text behind them. A sign that begins no markup is a text. A tag
    has `fuel` attributes at most. -/
def markup (fuel : Nat) (cs : List Char) : List Token × List Char :=
  let single (t : Token × List Char) : List Token × List Char := ([t.1], t.2)
  match cs with
  | '!' :: '-' :: '-' :: cs => single (comment? cs)
  | '!' :: cs =>
    if beginsWith "doctype" cs then ([.doctype], (cs.dropWhile (· != '>')).drop 1)
    else single (bogusComment cs)
  | '?' :: _ => single (bogusComment cs)
  | '/' :: '>' :: cs => ([], cs)
  | '/' :: c :: rest =>
    if c.isAlpha then
      match Tag.read? fuel (c :: rest) with
      | some (tag, _, rest) => ([.endTag tag], rest)
      | none => ([], [])
    else single (bogusComment (c :: rest))
  | c :: rest =>
    if c.isAlpha then
      match Tag.read? fuel (c :: rest) with
      | some (tag, attributes, rest) =>
        let (tokens, rest) := content fuel tag attributes rest
        (.startTag tag attributes :: tokens, rest)
      | none => ([], [])
    else ([.text "<"], cs)
  | [] => ([.text "<"], [])

/-- The tokens of a text, of which at most `fuel` pieces are read. As every piece has at least one
    character, a text of `fuel` characters is read to its end. -/
def ofChars : Nat → List Char → List Token
  | 0, _ => []
  | _, [] => []
  | fuel + 1, '<' :: cs =>
    let (tokens, rest) := markup (fuel + 1) cs
    tokens ++ ofChars fuel rest
  | fuel + 1, c :: cs =>
    let s := (c :: cs).takeWhile (· != '<')
    textTokens (Reference.decode .text s) ++ ofChars fuel ((c :: cs).dropWhile (· != '<'))

/-- The tokens of a page. -/
def ofPage (page : String) : List Token :=
  let cs := Source.text page
  ofChars cs.length cs

end Token

end ClassSheet.Html
