import ClassSheet.Pattern.Basic
import ClassSheet.Text.Blank
import ClassSheet.Text.Decimal

/-! # Media conditions

The condition of an `@media` rule: one or more features that all have to hold, and its CSS text. -/

namespace ClassSheet.Media

open ClassSheet.Text

/-! ### Features -/

/-- How the page is turned. -/
inductive Orientation where
  | portrait | landscape
deriving DecidableEq

/-- The spelling of an orientation in CSS. -/
def Orientation.css : Orientation → String
  | .portrait => "portrait"
  | .landscape => "landscape"

/-- The unit of a bound. -/
inductive Scale where
  | px | dpi | dppx
deriving DecidableEq

namespace Scale

/-- The spelling of a unit in CSS. -/
def css : Scale → String
  | px => "px"
  | dpi => "dpi"
  | dppx => "dppx"

/-- Whether the unit measures how fine the picture is, and not how long something is. -/
def isResolution : Scale → Bool
  | px => false
  | dpi | dppx => true

end Scale

/-- A whole number of units. -/
structure Amount where
  value : UInt32
  scale : Scale
deriving DecidableEq

/-- The CSS text of an amount. -/
def Amount.css (a : Amount) : String := wordText a.value ++ a.scale.css

/-- The side from which a bound limits a quantity. -/
inductive Bound where
  | max | min
deriving DecidableEq

/-- The spelling of a bound in CSS. -/
def Bound.css : Bound → String
  | .max => "max"
  | .min => "min"

/-- A quantity of the page that a bound may limit. -/
inductive Quantity where
  | width | height | resolution
deriving DecidableEq

namespace Quantity

/-- The spelling of a quantity in CSS. -/
def css : Quantity → String
  | width => "width"
  | height => "height"
  | resolution => "resolution"

/-- Whether an amount in the given unit can bound the quantity. -/
def fits (q : Quantity) (s : Scale) : Bool := (q == resolution) == s.isResolution

end Quantity

/-- A feature of a condition. -/
inductive Feature where
  | orientation (o : Orientation)
  | range (bound : Bound) (quantity : Quantity) (amount : Amount)
deriving DecidableEq

/-- The CSS text of a feature. -/
def Feature.css : Feature → String
  | orientation o => "(orientation: " ++ o.css ++ ")"
  | range bound quantity amount =>
    "(" ++ bound.css ++ "-" ++ quantity.css ++ ": " ++ amount.css ++ ")"

/-! ### Conditions -/

/-- Features that all have to hold. -/
structure Condition where
  features : List Feature
deriving DecidableEq

namespace Condition

/-- The CSS text of a condition. -/
def css (c : Condition) : String := String.intercalate " and " (c.features.map Feature.css)

/-- The head of a rule under a condition. -/
def atRule (c : Condition) : String := "@media " ++ c.css

/-! ### The form of a condition -/

/-- Describes any amount of white space. -/
def blanks : Pattern := Pattern.many (Pattern.one isBlank)

/-- Describes a feature as CSS writes it, with white space where CSS allows it. -/
def featurePattern : Pattern :=
  Pattern.text "(" ++ blanks ++ Pattern.anyText ["min", "max"] ++ Pattern.text "-" ++
      Pattern.anyText ["width", "height", "resolution"] ++ blanks ++ Pattern.text ":" ++ blanks ++
      Pattern.digits ++
      Pattern.anyText ["px", "em", "rem", "vh", "vw", "vmin", "vmax", "dpi", "dpcm", "dppx"] ++
      blanks ++ Pattern.text ")" |||
    Pattern.text "(" ++ blanks ++ Pattern.text "orientation" ++ blanks ++ Pattern.text ":" ++
      blanks ++ Pattern.anyText ["landscape", "portrait"] ++ blanks ++ Pattern.text ")"

/-- Describes a condition as CSS writes it. -/
def pattern : Pattern :=
  blanks ++ Pattern.separated (blanks ++ Pattern.text "and" ++ blanks) featurePattern ++ blanks

/-- Whether a text has the form of a condition. -/
def isWellFormed (text : String) : Bool := pattern.accepts text.toList

end Condition

end ClassSheet.Media
