import ClassSheet.Dom.Tree

/-! # The HTML text of a tree

Start tags, and nodes with all below them. -/

namespace ClassSheet.Dom

/-! ### Escapes -/

/-- A character of a text as it stands in HTML. -/
def escapedTextChar : Char → String
  | '&' => "&amp;"
  | '<' => "&lt;"
  | '>' => "&gt;"
  | c => String.singleton c

/-- A character of an attribute value as it stands between double quotes. -/
def escapedValueChar : Char → String
  | '&' => "&amp;"
  | '"' => "&quot;"
  | c => String.singleton c

/-- A text as it stands in HTML. -/
def escapedText (s : String) : String := String.join (s.toList.map escapedTextChar)

/-- An attribute value as it stands between double quotes. -/
def escapedValue (s : String) : String := String.join (s.toList.map escapedValueChar)

/-! ### Elements -/

/-- The tags of elements that have no content and no end tag. -/
def voidTags : List String :=
  ["area", "base", "br", "col", "embed", "hr", "img", "input", "link", "meta", "source", "track",
    "wbr"]

/-- The tags of elements whose texts are not escaped. -/
def rawTextTags : List String := ["style", "script"]

/-- An attribute inside a start tag. -/
def Attribute.html (a : Attribute) : String :=
  " " ++ a.name ++ "=\"" ++ escapedValue a.value ++ "\""

/-- The start tag of an element. -/
def Element.startTag (e : Element) : String :=
  "<" ++ e.tag ++ String.join (e.attributes.map Attribute.html) ++ ">"

/-- The end tag of an element. -/
def Element.endTag (e : Element) : String := "</" ++ e.tag ++ ">"

/-! ### Subtrees -/

namespace Tree

/-- What is still to be written. -/
inductive Writing where
  /-- A node and all below it. -/
  | node (i : Nat)
  /-- A text that is not escaped. -/
  | raw (s : String)
  /-- An end tag. -/
  | close (e : Element)

/-- A child as it is written below an element whose texts are raw or escaped. -/
def writingOf (t : Tree) (rawTexts : Bool) (i : Nat) : Writing :=
  match rawTexts, (t.get? (some i)).bind Node.text? with
  | true, some s => .raw s
  | _, _ => .node i

/-- Writes what waits, one item after the other and behind `out`, `fuel` items at most. -/
def write (t : Tree) : Nat → List Writing → String → String
  | 0, _, out => out
  | _, [], out => out
  | fuel + 1, .raw s :: rest, out => t.write fuel rest (out ++ s)
  | fuel + 1, .close e :: rest, out => t.write fuel rest (out ++ e.endTag)
  | fuel + 1, .node i :: rest, out =>
    match t.nodes[i]? with
    | none => t.write fuel rest out
    | some node =>
      match node.data with
      | .document => t.write fuel ((t.children (some i)).map .node ++ rest) out
      | .text s => t.write fuel rest (out ++ escapedText s)
      | .comment s => t.write fuel rest (out ++ "<!--" ++ s ++ "-->")
      | .element e =>
        if voidTags.contains e.tag then t.write fuel rest (out ++ e.startTag)
        else
          let inside := (t.children (some i)).map (t.writingOf (rawTextTags.contains e.tag))
          t.write fuel (inside ++ .close e :: rest) (out ++ e.startTag)

/-- The HTML text of a node with all below it. Every node is written once and closed at most once,
    which bounds the items. -/
def outerHtml (t : Tree) (r : NodeRef) : String :=
  match r with
  | some i => t.write (2 * t.size + 1) [.node i] ""
  | none => ""

/-- The start tag of an element; empty for any other node. -/
def startTag (t : Tree) (r : NodeRef) : String := ((t.element? r).map Element.startTag).getD ""

end Tree

end ClassSheet.Dom
