/-! # Selectors

The selector of a rule: its parts, whether it relies on the generated class, and the pseudo class or
element that every part ends with. -/

namespace ClassSheet

/-- A pseudo element or class that a rule applies to. -/
inductive Pseudo where
  | after | before | hover | focus
deriving DecidableEq

namespace Pseudo

/-- Every pseudo element and class. -/
def all : List Pseudo := [after, before, hover, focus]

/-- The spelling in a class name. -/
def code : Pseudo → String
  | after => "APE"
  | before => "BPE"
  | hover => "HPE"
  | focus => "FPE"

/-- The one that a class name spells. -/
def ofCode? (code : String) : Option Pseudo := all.find? (·.code == code)

/-- The spelling in CSS, with its colons. -/
def css : Pseudo → String
  | after => "::after"
  | before => "::before"
  | hover => ":hover"
  | focus => ":focus"

end Pseudo

/-- A list of alternatives that a rule applies to. -/
structure Selector where
  parts : List String
  /-- Whether the selector relies on the generated class being on the element. -/
  usesClass : Bool
deriving DecidableEq

namespace Selector

/-- The selector of the elements with a class. -/
def ofClass (className : String) : Selector := ⟨["." ++ className], true⟩

/-- The text of a selector, with the pseudo suffix on every part. -/
def css (s : Selector) (pseudo : Option Pseudo) : String :=
  String.intercalate ", " (s.parts.map fun part => part ++ (pseudo.map Pseudo.css).getD "")

end Selector

end ClassSheet
