import ClassSheet.Html.Token

/-! # The markup of a page

A page as nested markup, and the reader that builds it from tokens. The reader supplies what a page
may leave out: the `html`, `head` and `body` elements, and the place where the body begins. It reads
pages whose elements are properly nested; an end tag without an element to close is passed over, and
elements that are still open at the end are closed there.

The reader is part of the input layer in the place of an HTML parser (see `ClassSheet.Html.Source`),
which reads improperly nested pages as well. Nothing is proved of it: what is proved of documents
holds of all markup, however it was read (`documentOf_shows`). -/

namespace ClassSheet.Html

/-- A piece of a page. -/
inductive Markup where
  | doctype
  /-- An instruction to a processor, which pages of HTML do not have. -/
  | instruction
  | text (s : String)
  | comment (s : String)
  | element (tag : String) (attributes : Attributes) (children : List Markup)

/-! ### Open elements -/

/-- An element whose end has not been read; its children so far, the latest first. -/
structure OpenElement where
  tag : String
  attributes : Attributes
  children : List Markup

namespace OpenElement

/-- The element with its end read. The content of a `template` is kept apart from the page, so the
    element is empty. -/
def closed (e : OpenElement) : Markup :=
  .element e.tag e.attributes (if e.tag == "template" then [] else e.children.reverse)

/-- Closes elements from the innermost one on, up to one with the tag or up to the outermost. What
    is left is the closed element and the elements around it. -/
def closeThrough (tag : Option String) : OpenElement → List OpenElement → Markup × List OpenElement
  | e, [] => (e.closed, [])
  | e, outer :: rest =>
    if some e.tag = tag then (e.closed, outer :: rest)
    else closeThrough tag { outer with children := e.closed :: outer.children } rest

/-- Whether one of the open elements, the innermost first, ends at an end tag with the tag. Elements
    around a `template` do not end inside it. -/
def endsAt (tag : String) : List OpenElement → Bool
  | [] => false
  | e :: outer => e.tag == tag || (e.tag != "template" && endsAt tag outer)

end OpenElement

/-! ### Pages in reading -/

/-- How far a page has been read. -/
inductive Place where
  | start
  | beforeHead
  | inHead
  | afterHead
  | inBody
  | afterBody
  | afterHtml
deriving DecidableEq

namespace Place

/-- Whether the body has not begun. -/
def isBeforeBody : Place → Bool
  | .start | .beforeHead | .inHead | .afterHead => true
  | .inBody | .afterBody | .afterHtml => false

/-- The place when something comes that belongs to the body if the body has begun. -/
def resumed : Place → Place
  | .afterBody | .afterHtml => .inBody
  | place => place

end Place

/-- A page in reading: its parts, each with the latest piece first, and the elements that are open
    inside the head or the body, the innermost first. -/
structure Page where
  place : Place
  beforeHtml : List Markup
  htmlAttributes : Attributes
  beforeHead : List Markup
  headAttributes : Attributes
  head : List Markup
  afterHead : List Markup
  bodyAttributes : Attributes
  body : List Markup
  afterBody : List Markup
  afterHtml : List Markup
  opened : List OpenElement

namespace Page

/-- The page of which nothing has been read. -/
def empty : Page := ⟨.start, [], [], [], [], [], [], [], [], [], [], []⟩

/-- Whether the page is inside a `template`. -/
def inTemplate (p : Page) : Bool := p.opened.any (·.tag == "template")

/-! ### Adding pieces -/

/-- A text behind other pieces; two texts in a row are one. -/
def pushText (s : String) : List Markup → List Markup
  | .text t :: pieces => .text (t ++ s) :: pieces
  | pieces => .text s :: pieces

/-- The page with a text in the innermost open element, or in the body if none is open. -/
def addBodyText (p : Page) (s : String) : Page :=
  match p.opened with
  | e :: outer => { p with opened := { e with children := pushText s e.children } :: outer }
  | [] => { p with body := pushText s p.body }

/-- The page with a closed element in the innermost open one, or else in the head or the body. -/
def addElement (p : Page) (m : Markup) : Page :=
  match p.opened with
  | e :: outer => { p with opened := { e with children := m :: e.children } :: outer }
  | [] =>
    if p.place.isBeforeBody then { p with head := m :: p.head } else { p with body := m :: p.body }

/-- The page with a comment where the reading has got to. -/
def addComment (p : Page) (s : String) : Page :=
  let m := Markup.comment s
  match p.place, p.opened with
  | .afterBody, _ => { p with afterBody := m :: p.afterBody }
  | .afterHtml, _ => { p with afterHtml := m :: p.afterHtml }
  | _, e :: outer => { p with opened := { e with children := m :: e.children } :: outer }
  | .start, [] => { p with beforeHtml := m :: p.beforeHtml }
  | .beforeHead, [] => { p with beforeHead := m :: p.beforeHead }
  | .inHead, [] => { p with head := m :: p.head }
  | .afterHead, [] => { p with afterHead := m :: p.afterHead }
  | .inBody, [] => { p with body := m :: p.body }

/-- Whether a character is white space between the parts of a page. A carriage return comes from a
    reference only. -/
def isSpace (c : Char) : Bool := Tag.isSpace c || c == '\r'

/-- The page with a text. In front of the body, white space does not count, and anything else begins
    the body; behind it, anything but white space goes on with it. Null characters are left out, but
    are no white space. -/
def addText (p : Page) (s : String) : Page :=
  let shown (cs : List Char) := String.ofList (cs.filter (· != '\x00'))
  let cs := s.toList
  if p.opened.isEmpty && p.place.isBeforeBody then
    match cs.dropWhile isSpace with
    | [] => p
    | cs => { p with place := .inBody }.addBodyText (shown cs)
  else
    let place := if cs.all isSpace then p.place else p.place.resumed
    { p with place }.addBodyText (shown cs)

/-! ### Tags -/

/-- The tags of elements without content. -/
def voidTags : List String :=
  ["area", "base", "basefont", "bgsound", "br", "col", "embed", "hr", "img", "input", "keygen",
    "link", "meta", "param", "source", "track", "wbr"]

/-- The tags of elements that belong to the head when they stand in front of the body. -/
def headTags : List String :=
  ["base", "basefont", "bgsound", "link", "meta", "noframes", "noscript", "script", "style",
    "template", "title"]

/-- The page with an element begun, or added if it has no content. -/
def openElement (p : Page) (tag : String) (attributes : Attributes) : Page :=
  if voidTags.contains tag then p.addElement (.element tag attributes [])
  else { p with opened := ⟨tag, attributes, []⟩ :: p.opened }

/-- Attributes with those added whose name is new. -/
def withMissing (attributes more : Attributes) : Attributes :=
  attributes ++ more.filter fun a => !attributes.any (·.1 == a.1)

/-- The place of a page when an element begins there. Behind the head, a `noscript` belongs to the
    body. -/
def placeOfElement (p : Page) (tag : String) : Place :=
  if !p.opened.isEmpty then p.place.resumed
  else if headTags.contains tag then
    match p.place with
    | .start | .beforeHead | .inHead => .inHead
    | .afterHead => if tag == "noscript" then .inBody else .afterHead
    | _ => .inBody
  else .inBody

/-- The page with a start tag. The tags of the page itself name its parts; a second one adds
    attributes at most, and none inside a `template`. -/
def startTag (p : Page) (tag : String) (attributes : Attributes) : Page :=
  if tag == "html" then
    if p.inTemplate then p
    else
      let place := if p.place == .start then .beforeHead else p.place
      { p with place, htmlAttributes := withMissing p.htmlAttributes attributes }
  else if tag == "head" then
    if p.place == .start || p.place == .beforeHead then
      { p with place := .inHead, headAttributes := attributes }
    else { p with place := p.place.resumed }
  else if tag == "body" then
    if p.inTemplate then p
    else { p with place := .inBody, bodyAttributes := withMissing p.bodyAttributes attributes }
  else { p with place := p.placeOfElement tag }.openElement tag attributes

/-- The page with the open elements closed up to one with the tag. -/
def closeElement (p : Page) (tag : Option String) : Page :=
  match p.opened with
  | [] => p
  | e :: outer =>
    let (m, rest) := OpenElement.closeThrough tag e outer
    { p with opened := rest }.addElement m

/-- The page with an end tag. One that ends no open element ends a part of the page or nothing. -/
def endTag (p : Page) (tag : String) : Page :=
  if OpenElement.endsAt tag p.opened then
    { p with place := p.place.resumed }.closeElement (some tag)
  else if p.inTemplate then p
  else if tag == "head" then
    match p.place with
    | .start | .beforeHead | .inHead => { p with place := .afterHead }
    | place => { p with place := place.resumed }
  else if tag == "body" then { p with place := .afterBody }
  else if tag == "html" then { p with place := .afterHtml }
  else { p with place := p.place.resumed }

/-! ### Whole pages -/

/-- The page with a token. -/
def step (p : Page) : Token → Page
  | .doctype => p
  | .comment s => p.addComment s
  | .text s => p.addText s
  | .startTag tag attributes => p.startTag tag attributes
  | .endTag tag => p.endTag tag

/-- The markup of a page that has been read to its end. -/
def markup (p : Page) : List Markup :=
  let p := p.closeElement none
  let head := Markup.element "head" p.headAttributes p.head.reverse
  let body := Markup.element "body" p.bodyAttributes p.body.reverse
  let html := Markup.element "html" p.htmlAttributes
    (p.beforeHead.reverse ++ head :: p.afterHead.reverse ++ body :: p.afterBody.reverse)
  p.beforeHtml.reverse ++ html :: p.afterHtml.reverse

end Page

/-- The markup of a page. -/
def Markup.ofPage (page : String) : List Markup :=
  ((Token.ofPage page).foldl Page.step Page.empty).markup

end ClassSheet.Html
