import ClassSheet.Pattern.Basic

/-! # Numbers, lengths and operators

The atoms of a value: unsigned numbers as they are written, the units a length may have, a number
with or without a unit, and the four operators of `calc`. Each has the spelling it takes in a class
name and the one it takes in CSS. -/

namespace ClassSheet.Css

/-! ### Numbers -/

/-- An unsigned number as written: at least one digit and nothing but digits. -/
structure Numeral where
  digits : List Char
  nonempty : digits ≠ []
  isDigit : ∀ d ∈ digits, d.isDigit = true
deriving DecidableEq

/-- The number that a text spells. -/
def Numeral.ofChars? (cs : List Char) : Option Numeral :=
  if h : cs ≠ [] ∧ cs.all Char.isDigit = true then some ⟨cs, h.1, List.all_eq_true.mp h.2⟩ else none

/-- The CSS text of a number. A zero in front marks a decimal: the point goes behind it, unless it
    is the only digit. -/
def Numeral.css (n : Numeral) : String :=
  match n.digits with
  | '0' :: d :: ds => "0." ++ String.ofList (d :: ds)
  | ds => String.ofList ds

/-! ### Units -/

/-- A unit of length. -/
inductive LengthUnit where
  | px | em | rem | cm | mm | inch | pt | percent | pc | vh | vw | vmin | vmax | ch | ex | fr
deriving DecidableEq

namespace LengthUnit

/-- Every unit. -/
def all : List LengthUnit :=
  [px, em, rem, cm, mm, inch, pt, percent, pc, vh, vw, vmin, vmax, ch, ex, fr]

/-- The spelling of a unit in CSS. -/
def css : LengthUnit → String
  | px => "px"
  | em => "em"
  | rem => "rem"
  | cm => "cm"
  | mm => "mm"
  | inch => "in"
  | pt => "pt"
  | percent => "%"
  | pc => "pc"
  | vh => "vh"
  | vw => "vw"
  | vmin => "vmin"
  | vmax => "vmax"
  | ch => "ch"
  | ex => "ex"
  | fr => "fr"

/-- The spelling of a unit in a class name, which has letters only. -/
def code : LengthUnit → String
  | percent => "pct"
  | u => u.css

/-- The unit that a class name spells. -/
def ofCode? (code : String) : Option LengthUnit := all.find? (·.code == code)

/-- Describes the spelling of a unit in a class name. -/
def pattern : Pattern := Pattern.anyText (all.map code)

end LengthUnit

/-! ### Dimensions -/

/-- A number with or without a unit. -/
structure Dimension where
  number : Numeral
  unit : Option LengthUnit
deriving DecidableEq

namespace Dimension

/-- The dimension that a text spells: digits, then a unit or nothing. -/
def ofChars? (cs : List Char) : Option Dimension := do
  let number ← Numeral.ofChars? (cs.takeWhile Char.isDigit)
  match cs.dropWhile Char.isDigit with
  | [] => some ⟨number, none⟩
  | suffix => return ⟨number, some (← LengthUnit.ofCode? (String.ofList suffix))⟩

/-- The dimension that a text spells, if it has a unit. -/
def lengthOfChars? (cs : List Char) : Option Dimension :=
  (ofChars? cs).filter (·.unit.isSome)

/-- The CSS text of a dimension. -/
def css (d : Dimension) : String := d.number.css ++ (d.unit.map LengthUnit.css).getD ""

/-- Describes a number with a unit. -/
def lengthPattern : Pattern := Pattern.digits ++ LengthUnit.pattern

/-- Describes a number with or without a unit. -/
def pattern : Pattern := Pattern.digits ++ Pattern.optional LengthUnit.pattern

end Dimension

/-! ### Operators -/

/-- An operator between the two sides of `calc`. -/
inductive Operator where
  | add | sub | mul | div
deriving DecidableEq

namespace Operator

/-- Every operator. -/
def all : List Operator := [add, sub, mul, div]

/-- The spelling of an operator in a class name. -/
def code : Operator → String
  | add => "pl"
  | sub => "mn"
  | mul => "mp"
  | div => "dv"

/-- The operator that a class name spells. -/
def ofCode? (code : String) : Option Operator := all.find? (·.code == code)

/-- The sign of an operator in CSS. -/
def sign : Operator → Char
  | add => '+'
  | sub => '-'
  | mul => '*'
  | div => '/'

/-- Describes the spelling of an operator in a class name. -/
def pattern : Pattern := Pattern.anyText (all.map code)

end Operator

end ClassSheet.Css
