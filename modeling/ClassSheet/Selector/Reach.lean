import ClassSheet.Pattern.Basic
import ClassSheet.Selector.Basic
import ClassSheet.Text.Blank
import ClassSheet.Text.Decimal

/-! # The reach of a rule

A rule is written on one element and may reach its relatives: children, siblings, everything inside,
or every element of the same kind. `Reach` names these choices, `Reach.ofToken?` reads them from a
token of a class name, and `Reach.selector` turns them into a selector. -/

namespace ClassSheet

open ClassSheet.Text

/-! ### Positions -/

/-- A place among brothers and sisters. -/
inductive Position where
  | first
  | last
  | nth (n : UInt32)
deriving DecidableEq

namespace Position

/-- The position that a text spells: a word, or a number of 32 bits. -/
def ofChars? (cs : List Char) : Option Position :=
  if cs = "First".toList then some first
  else if cs = "Last".toList then some last
  else (word? cs).map nth

/-- The pseudo class of a position, counted among all children or among those of one kind. -/
def css (p : Position) (ofType : Bool) : String :=
  let kind := if ofType then "of-type" else "child"
  match p with
  | first => ":first-" ++ kind
  | last => ":last-" ++ kind
  | nth n => ":nth-" ++ kind ++ "(" ++ wordText n ++ ")"

end Position

/-! ### Reach -/

/-- Which elements a rule applies to, seen from the element that carries the class. The flag
    `ofType` limits the reach to elements with the same tag. -/
inductive Reach where
  /-- The element and everything inside it. -/
  | all
  /-- Every element with the same tag. -/
  | allOfType
  /-- Everything inside the element. -/
  | allWithin
  /-- Every element with the same tag inside the element. -/
  | allOfTypeWithin
  /-- Every element with the same tag below a parent with the same tag. -/
  | allChildLikeThis
  /-- The child at a position. -/
  | child (ofType : Bool) (position : Position)
  /-- The children, except perhaps the one at a position. -/
  | children (ofType : Bool) (except : Option Position)
  /-- The element and the sibling that comes `count` places after it. -/
  | sibling (ofType : Bool) (count : UInt32)
  /-- The element and all siblings after it. -/
  | siblings (ofType : Bool)
  /-- The element and all siblings after it, except the one at a position. -/
  | siblingsExcept (position : Position)
deriving DecidableEq

namespace Reach

/-! ### Tokens -/

/-- The farthest sibling that a rule may reach. -/
def maxSiblingCount : UInt32 := 64

/-- Describes a position in a token. -/
def positionPattern : Pattern := Pattern.anyText ["First", "Last"] ||| Pattern.digits

/-- Describes the tokens of a reach, whatever the size of their numbers. -/
def tokenPattern : Pattern :=
  let ofType := Pattern.optional (Pattern.text "OfType")
  let everything :=
    Pattern.text "All" ++
      (Pattern.text "ChildLikeThis" ||| ofType ++ Pattern.optional (Pattern.text "Within"))
  let children :=
    Pattern.text "Children" ++ ofType ++ Pattern.optional (Pattern.text "Not" ++ positionPattern)
  let child := Pattern.text "Child" ++ ofType ++ Pattern.optional positionPattern
  let siblings :=
    Pattern.text "Sibling" ++ Pattern.optional (Pattern.text "s") ++
      Pattern.optional
        (Pattern.text "Not" ++ positionPattern |||
          Pattern.text "OfType" ++ Pattern.optional Pattern.digits ||| Pattern.digits)
  everything ||| children ||| child ||| siblings

/-- Whether a text begins with a word, and what is left without it. -/
def takeFlag (flag : String) (cs : List Char) : Bool × List Char :=
  match afterLead? flag.toList cs with
  | some rest => (true, rest)
  | none => (false, cs)

/-- What follows `All`. -/
def ofAll? (rest : List Char) : Option Reach :=
  if rest = [] then some all
  else if rest = "OfType".toList then some allOfType
  else if rest = "Within".toList then some allWithin
  else if rest = "OfTypeWithin".toList then some allOfTypeWithin
  else if rest = "ChildLikeThis".toList then some allChildLikeThis
  else none

/-- What follows `Children`. -/
def ofChildren? (rest : List Char) : Option Reach :=
  let (ofType, rest) := takeFlag "OfType" rest
  match afterLead? "Not".toList rest with
  | some position => (Position.ofChars? position).map fun p => children ofType (some p)
  | none => if rest = [] then some (children ofType none) else none

/-- What follows `Child`. Without a position it is the first one. -/
def ofChild? (rest : List Char) : Option Reach :=
  let (ofType, rest) := takeFlag "OfType" rest
  if rest = [] then some (child ofType .first)
  else (Position.ofChars? rest).map (child ofType)

/-- What follows `Sibling`. A count may not exceed `maxSiblingCount`, and zero counts as one. -/
def ofSibling? (rest : List Char) : Option Reach :=
  let (plural, rest) := takeFlag "s" rest
  match afterLead? "Not".toList rest with
  | some position => (Position.ofChars? position).map siblingsExcept
  | none =>
    let (ofType, rest) := takeFlag "OfType" rest
    if rest = [] then some (if plural then siblings ofType else sibling ofType 1)
    else
      match word? rest with
      | none => none
      | some count =>
        if maxSiblingCount < count then none
        else some (sibling ofType (if count = 0 then 1 else count))

/-- The reach that a token stands for. -/
def ofToken? (token : String) : Option Reach :=
  let cs := token.toList
  if tokenPattern.accepts cs then
    match afterLead? "All".toList cs with
    | some rest => ofAll? rest
    | none =>
      match afterLead? "Children".toList cs with
      | some rest => ofChildren? rest
      | none =>
        match afterLead? "Child".toList cs with
        | some rest => ofChild? rest
        | none => (afterLead? "Sibling".toList cs).bind ofSibling?
  else none

/-! ### Selectors -/

/-- What a selector is made from: the generated class and the tags of the element and its parent. -/
structure Origin where
  className : String
  tag : String
  parentTag : Option String

/-- The selector of a reach. -/
def selector (reach : Reach) (origin : Origin) : Selector :=
  let c := "." ++ origin.className
  let t := origin.tag
  match reach with
  | allChildLikeThis =>
    match origin.parentTag with
    | some parent => ⟨[parent ++ " > " ++ t], false⟩
    | none => Selector.ofClass origin.className
  | allOfType => ⟨[t], false⟩
  | all => ⟨[c, c ++ " *"], true⟩
  | allWithin => ⟨[c ++ " *"], true⟩
  | allOfTypeWithin => ⟨[c ++ " " ++ t], true⟩
  | child ofType position =>
    ⟨[c ++ " > " ++ (if ofType then t else "") ++ position.css ofType], true⟩
  | children ofType none => ⟨[c ++ " > " ++ (if ofType then t else "*")], true⟩
  | children ofType (some position) =>
    ⟨[c ++ " > " ++ (if ofType then t else "") ++ ":not(" ++ position.css ofType ++ ")"], true⟩
  | sibling ofType count =>
    let step := if ofType then " + " ++ t else " + *"
    ⟨[c, c ++ String.join (List.replicate count.toNat step)], true⟩
  | siblings ofType => ⟨[c, c ++ " ~ " ++ (if ofType then t else "*")], true⟩
  | siblingsExcept position =>
    let except := ":not(" ++ position.css false ++ ")"
    ⟨[c ++ except, c ++ " ~ " ++ except], true⟩

/-- The selector of a token. Without a token, or with one that stands for no reach, it is the class
    alone. -/
def selectorOfToken (token : Option String) (origin : Origin) : Selector :=
  match token.bind ofToken? with
  | some reach => reach.selector origin
  | none => Selector.ofClass origin.className

end Reach

end ClassSheet
