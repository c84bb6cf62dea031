import ClassSheet.Css.Grid

/-! # Shapes of value tokens

A value token has one of ten shapes, each given by a pattern. -/

namespace ClassSheet.Css

/-- The shape of a value token. -/
inductive Shape where
  /-- A length, a style word and perhaps a colour. -/
  | border
  /-- A grid template. -/
  | grid
  /-- Lengths with hyphens between them. -/
  | lengths
  /-- Numbers with hyphens between them. -/
  | numbers
  /-- A fraction of one. -/
  | fraction
  /-- A number below zero, with or without a unit. -/
  | negative
  /-- A sum, difference, product or quotient. -/
  | calculation
  /-- A colour function. -/
  | colorFunction
  /-- A hexadecimal colour. -/
  | hexColor
  /-- A word in lower case, perhaps with hyphens. -/
  | text
deriving DecidableEq

namespace Shape

/-- Every shape, in the order in which they are tried. -/
def all : List Shape :=
  [border, grid, lengths, numbers, fraction, negative, calculation, colorFunction, hexColor, text]

/-- Describes a border shorthand. -/
def borderPattern : Pattern :=
  (ColorFunction.fractionPattern ||| Pattern.digits) ++ LengthUnit.pattern ++ Pattern.text "-" ++
    Pattern.atLeast 4 Pattern.lower ++
    Pattern.optional (Pattern.text "-" ++
      (Color.hexPattern ||| ColorFunction.pattern ||| Pattern.atLeast 3 Pattern.lower))

/-- Describes a calculation. -/
def calculationPattern : Pattern :=
  Pattern.text "calc(" ++ Dimension.pattern ++ Pattern.text "-" ++ Operator.pattern ++
    Pattern.text "-" ++ Dimension.pattern ++ Pattern.text ")"

/-- Describes the tokens of a shape. -/
def pattern : Shape → Pattern
  | border => borderPattern
  | grid => GridEntry.templatePattern
  | lengths => Pattern.separated (Pattern.text "-") Dimension.lengthPattern
  | numbers => Pattern.separated (Pattern.text "-") Pattern.digits
  | fraction => ColorFunction.fractionPattern
  | negative => Pattern.text "mn" ++ Dimension.pattern
  | calculation => calculationPattern
  | colorFunction => ColorFunction.pattern
  | hexColor => Color.hexPattern
  | text => Pattern.separated (Pattern.text "-") (Pattern.atLeast 2 Pattern.lower)

/-- Whether a token has a shape. -/
def accepts (shape : Shape) (token : String) : Bool := shape.pattern.accepts token.toList

/-- The first shape that a token has. -/
def classify? (token : String) : Option Shape := all.find? (·.accepts token)

end Shape

end ClassSheet.Css
