import ClassSheet.Css.Dimension
import ClassSheet.Css.Keyword

/-! # Colours

Colour functions such as `rgb(255-0-0)`, and the colour at the end of a border shorthand, which may
also be a hexadecimal colour, a keyword, or a word that is not a colour at all. -/

namespace ClassSheet.Css

open ClassSheet.Text

/-- The name and the inside of a token of the form `name(inside)`: the name ends at the first
    opening bracket, and the token ends with a closing one. -/
def call? (token : List Char) : Option (List Char × List Char) :=
  match token.dropWhile (· != '(') with
  | [] => none
  | _ :: inside =>
    if inside.getLast? = some ')' then some (token.takeWhile (· != '('), inside.dropLast) else none

/-! ### Colour functions -/

/-- The functions that make a colour. -/
inductive ColorModel where
  | rgb | rgba | hsl | hsla
deriving DecidableEq

namespace ColorModel

/-- Every colour function. -/
def all : List ColorModel := [rgb, rgba, hsl, hsla]

/-- The name of a colour function, the same in class names and in CSS. -/
def name : ColorModel → String
  | rgb => "rgb"
  | rgba => "rgba"
  | hsl => "hsl"
  | hsla => "hsla"

/-- The colour function with a given name. -/
def ofName? (name : String) : Option ColorModel := all.find? (·.name == name)

/-- Whether the second and third arguments are percentages. -/
def hasPercentages : ColorModel → Bool
  | hsl | hsla => true
  | rgb | rgba => false

end ColorModel

/-- A colour function applied to its arguments. -/
structure ColorFunction where
  model : ColorModel
  args : List Numeral
deriving DecidableEq

namespace ColorFunction

/-- The colour function that a token spells: three or four numbers with hyphens between them. -/
def ofChars? (token : List Char) : Option ColorFunction := do
  let (name, inside) ← call? token
  let model ← ColorModel.ofName? (String.ofList name)
  let args ← (pieces (· == '-') inside).mapM Numeral.ofChars?
  if 3 ≤ args.length ∧ args.length ≤ 4 then some ⟨model, args⟩ else none

/-- The CSS text of the argument at a position. -/
def argCss (model : ColorModel) (arg : Numeral) (position : Nat) : String :=
  if model.hasPercentages && (position == 1 || position == 2) then arg.css ++ "%" else arg.css

/-- The CSS text of a colour function. -/
def css (f : ColorFunction) : String :=
  f.model.name ++ "(" ++
    String.intercalate ", " (f.args.zipIdx.map fun (arg, i) => argCss f.model arg i) ++ ")"

/-- Describes a fraction: `1`, `0`, or a zero and one more digit for its tenths. -/
def fractionPattern : Pattern :=
  Pattern.text "1" ||| Pattern.text "0" ++ Pattern.one Char.isDigit ||| Pattern.text "0"

/-- Describes a colour function in a class name. -/
def pattern : Pattern :=
  Pattern.anyText ["rgb", "hsl"] ++ Pattern.optional (Pattern.text "a") ++ Pattern.text "(" ++
    Pattern.digits ++ Pattern.text "-" ++ Pattern.digits ++ Pattern.text "-" ++ Pattern.digits ++
    Pattern.optional (Pattern.text "-" ++ fractionPattern) ++ Pattern.text ")"

end ColorFunction

/-! ### Colours of a border -/

/-- The colour of a border. -/
inductive Color where
  /-- A named colour. -/
  | keyword (name : String)
  /-- A hexadecimal colour with its sign. -/
  | hex (digits : String)
  | function (f : ColorFunction)
  /-- A word that names no colour, as written. -/
  | raw (word : String)
deriving DecidableEq

namespace Color

/-- Describes a hexadecimal colour: the sign and three to eight digits in lower case. -/
def hexPattern : Pattern :=
  let hexDigit := Pattern.one fun c => c.isDigit || ('a' ≤ c && c ≤ 'f')
  Pattern.text "#" ++ Pattern.times 3 hexDigit ++ Pattern.atMost 5 hexDigit

/-- The colour that a token names. The sign of a hexadecimal colour and a bracket decide how the
    token is read. -/
def ofToken? (token : String) : Option Color :=
  if token.toList.head? = some '#' then
    if hexPattern.accepts token.toList then some (hex token) else none
  else if token.toList.contains '(' then (ColorFunction.ofChars? token.toList).map function
  else (Keyword.color? token).map keyword

/-- The CSS text of a colour. -/
def css : Color → String
  | keyword name => name
  | hex digits => digits
  | function f => f.css
  | raw word => word

end Color

end ClassSheet.Css
