import ClassSheet.Media.Condition

/-! # Rules

Declarations and rules, with their CSS text. -/

namespace ClassSheet.Css

/-- A property and the value it is set to. -/
structure Declaration where
  property : String
  value : String
  important : Bool
deriving DecidableEq

/-- The CSS text of a declaration. -/
def Declaration.css (d : Declaration) : String :=
  d.property ++ ": " ++ d.value ++ (if d.important then " !important" else "") ++ ";"

/-- Declarations for a selector, perhaps under a media condition. -/
structure Rule where
  selector : String
  declarations : List Declaration
  media : Option Media.Condition
deriving DecidableEq

namespace Rule

/-- A text in braces behind its head. -/
def block (head body : String) : String := head ++ "\x7b" ++ body ++ "\x7d"

/-- Whether a rule stands under a media condition. -/
def isMedia (r : Rule) : Bool := r.media.isSome

/-- The CSS text of a rule. -/
def css (r : Rule) : String :=
  let plain := block r.selector (String.intercalate " " (r.declarations.map Declaration.css))
  match r.media with
  | some condition => block condition.atRule plain
  | none => plain

end Rule

end ClassSheet.Css
