import ClassSheet.Css.Shape

/-! # Values

A value token of a class name, read by its shape, and its CSS text. -/

namespace ClassSheet.Css

open ClassSheet.Text

/-- The value that a token stands for. -/
inductive Value where
  | lengths (ds : List Dimension)
  | numbers (ns : List Numeral)
  | negative (d : Dimension)
  | hexColor (digits : String)
  | colorFunction (f : ColorFunction)
  | calculation (left : Dimension) (op : Operator) (right : Dimension)
  | grid (entries : List GridEntry)
  /-- A length, a word and perhaps a colour: a border shorthand, or another pair such as
      `10px-auto`. -/
  | border (width : Dimension) (style : String) (color : Option Color)
  | keyword (word : String)
deriving DecidableEq

namespace Value

/-! ### Reading -/

/-- The calculation that a token spells: two dimensions and an operator between them, inside
    `calc`. -/
def calculationOfChars? (token : List Char) : Option Value := do
  let (name, inside) ← call? token
  if name = "calc".toList then
    match pieces (· == '-') inside with
    | [left, op, right] =>
      return calculation (← Dimension.ofChars? left) (← Operator.ofCode? (String.ofList op))
        (← Dimension.ofChars? right)
    | _ => none
  else none

/-- A border from its parts. The style is written in its canonical spelling, or as found if it is no
    border style; a colour that is none is kept as found. -/
def borderOfParts? (width style : List Char) (color : Option (List Char)) : Option Value := do
  let style := String.ofList style
  let color := color.map fun c =>
    (Color.ofToken? (String.ofList c)).getD (Color.raw (String.ofList c))
  return border (← Dimension.lengthOfChars? width) ((Keyword.borderStyle? style).getD style) color

/-- The border that a token spells: a width, a style and perhaps a colour. -/
def borderOfChars? (token : List Char) : Option Value :=
  match outerPieces 0 token with
  | [width, style] => borderOfParts? width style none
  | [width, style, color] => borderOfParts? width style (some color)
  | _ => none

/-- The value that a token of a given shape stands for. -/
def ofShape? (token : String) : Shape → Option Value
  | .border => borderOfChars? token.toList
  | .grid => ((outerPieces 0 token.toList).mapM GridEntry.ofChars?).map grid
  | .lengths => ((pieces (· == '-') token.toList).mapM Dimension.lengthOfChars?).map lengths
  | .numbers | .fraction => ((pieces (· == '-') token.toList).mapM Numeral.ofChars?).map numbers
  | .negative => do return negative (← Dimension.ofChars? (← afterLead? "mn".toList token.toList))
  | .calculation => calculationOfChars? token.toList
  | .colorFunction => (ColorFunction.ofChars? token.toList).map colorFunction
  | .hexColor => some (hexColor token)
  | .text => (Keyword.word? token).map keyword

/-- The value that a token stands for. A token that begins with `calc` is a calculation or nothing;
    any other is read by its shape. -/
def ofToken? (token : String) : Option Value :=
  -- no keyword begins like this, so no word is lost
  if "calc".toList.isPrefixOf token.toList then calculationOfChars? token.toList
  else (Shape.classify? token).bind (ofShape? token)

/-! ### Writing -/

/-- The CSS text of a value. -/
def css : Value → String
  | lengths ds => String.intercalate " " (ds.map Dimension.css)
  | numbers ns => String.intercalate " " (ns.map Numeral.css)
  | negative d => "-" ++ d.css
  | hexColor digits => digits
  | colorFunction f => f.css
  | calculation left op right =>
    "calc(" ++ left.css ++ " " ++ String.singleton op.sign ++ " " ++ right.css ++ ")"
  | grid entries => String.intercalate " " (entries.map GridEntry.css)
  | border width style color =>
    width.css ++ " " ++ style ++ (color.map fun c => " " ++ c.css).getD ""
  | keyword word => word

end Value

end ClassSheet.Css
