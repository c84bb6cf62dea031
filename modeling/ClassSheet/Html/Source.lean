/-! # The text of a page

What a reader makes of the characters of a page before it looks for markup: byte order marks are
taken away where reading starts anew, and every line break becomes a line feed.

This module, `RawText`, `Reference`, `Tag`, `Token` and `Markup` are the input layer: they stand in
the place of the HTML parser that a program would link, and read the pages that `Html.Markup`
describes. What the library says of documents begins behind them, with the markup that
`Html.documentOf` takes. -/

namespace ClassSheet.Html.Source

/-- The byte order mark. -/
def mark : Char := Char.ofNat 0xFEFF

/-- A text at which reading starts anew: a byte order mark at its beginning does not count. -/
def afterMark : List Char → List Char
  | [] => []
  | c :: cs => if c == mark then cs else c :: cs

/-- How many bytes a page is read in at a time. -/
def blockSize : Nat := 4096

/-- A text without the byte order marks at which reading starts anew. A block is read as a whole up
    to a character that goes on in the next block; such a character is read on its own. `room` is
    the number of bytes that the block has left, and `fresh` says whether reading starts anew. -/
def withoutMarks : Nat → Bool → List Char → List Char
  | _, _, [] => []
  | room, fresh, c :: cs =>
    let within := c.utf8Size < room
    let rest := withoutMarks (if within then room - c.utf8Size else room + blockSize - c.utf8Size)
      (!within) cs
    if c == mark && (fresh || room < c.utf8Size) then rest else c :: rest

/-- A text with every line break written as a line feed. -/
def unixLines : List Char → List Char
  | [] => []
  | '\r' :: '\n' :: cs => '\n' :: unixLines cs
  | c :: cs => (if c == '\r' then '\n' else c) :: unixLines cs

/-- The text of a page as it is searched for markup. -/
def text (page : String) : List Char := unixLines (withoutMarks blockSize true page.toList)

end ClassSheet.Html.Source
