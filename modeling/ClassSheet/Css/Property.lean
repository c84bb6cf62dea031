import ClassSheet.Css.Keyword
import ClassSheet.Css.Property.Table

/-! # Properties

A property token of a class name stands for one or several properties: `BackgroundColor` and `Bgc`
for `background-color`, `PaddingTR` for the padding of two sides. -/

namespace ClassSheet.Css.Property

open ClassSheet.Text

/-- The index of the properties. -/
def nameIndex : List (String × String) := Keyword.indexed names

/-- The property that a text stands for, up to case, hyphens and spaces. -/
def name? (s : String) : Option String := Keyword.find? nameIndex s

/-- The property that a short form in lower case stands for. -/
def abbreviated? (s : String) : Option String := abbreviations.lookup s

/-! ### Sides of a box -/

/-- A side of a box. -/
inductive Side where
  | top | right | bottom | left
deriving DecidableEq

/-- The name of a side. -/
def Side.name : Side → String
  | .top => "top"
  | .right => "right"
  | .bottom => "bottom"
  | .left => "left"

/-- The side that a letter stands for. -/
def Side.ofLetter? : Char → Option Side
  | 'T' => some .top
  | 'R' => some .right
  | 'B' => some .bottom
  | 'L' => some .left
  | _ => none

/-- The sides that the letters behind a box property stand for: `Y` the vertical pair, `X` the
    horizontal one, and otherwise one to four letters with a side each. -/
def sides? : List Char → Option (List Side)
  | ['Y'] => some [.top, .bottom]
  | ['X'] => some [.right, .left]
  | letters =>
    if 1 ≤ letters.length ∧ letters.length ≤ 4 then letters.mapM Side.ofLetter? else none

/-- The properties of the sides that `token` names behind the box property `word`. -/
def sidesOf? (word property : String) (token : List Char) : Option (List String) := do
  let sides ← sides? (← afterLead? word.toList token)
  return sides.map fun side => property ++ "-" ++ side.name

/-! ### Tokens -/

/-- The properties that a token stands for, in order. A token that names sides of the padding or the
    margin stands for one property a side; any other stands for at most one, which its short form or
    the table of properties gives. None at all means that the token is refused. -/
def resolve (token : String) : List String :=
  match sidesOf? "Padding" "padding" token.toList <|> sidesOf? "Margin" "margin" token.toList with
  | some properties => properties
  | none =>
    let lowered := String.ofList (token.toList.flatMap lowerChar)
    (name? ((abbreviated? lowered).getD lowered)).toList

end ClassSheet.Css.Property
