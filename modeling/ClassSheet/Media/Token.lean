import ClassSheet.Media.Condition

/-! # Media tokens

The token of a class name that stands for a media condition: `MQ` and then pairs of a feature word
and its value, such as `MQMaxWidth600PXOrientationLandscape`. -/

namespace ClassSheet.Media

open ClassSheet.Text

/-! ### Feature words -/

/-- The word that begins a pair. A bound without a quantity is a word too, but names no feature. -/
inductive Word where
  | orientation
  | range (bound : Bound) (quantity : Quantity)
  | bare (bound : Bound)
deriving DecidableEq

namespace Word

/-- Every word, the longer ones before those they begin with. -/
def all : List Word :=
  [orientation, range .max .width, range .max .height, range .max .resolution, range .min .width,
    range .min .height, range .min .resolution, bare .max, bare .min]

/-- The spelling of a bound in a token. -/
def boundText : Bound → String
  | .max => "Max"
  | .min => "Min"

/-- The spelling of a quantity in a token. -/
def quantityText : Quantity → String
  | .width => "Width"
  | .height => "Height"
  | .resolution => "Resolution"

/-- The spelling of a word. -/
def text : Word → String
  | orientation => "Orientation"
  | range bound quantity => boundText bound ++ quantityText quantity
  | bare bound => boundText bound

/-- The word that a text begins with, and the rest of the text. -/
def read? (cs : List Char) : Option (Word × List Char) :=
  all.findSome? fun w => (afterLead? w.text.toList cs).map fun rest => (w, rest)

end Word

/-! ### Errors -/

/-- Why a token stands for no condition. -/
inductive Error where
  /-- The token does not begin with `MQ`. -/
  | missingLead (token : String)
  /-- No feature word where one has to begin. -/
  | unknownFeature (rest : String)
  /-- A bound without a quantity. -/
  | incompleteFeature (word : String)
  /-- A value that does not suit its feature. -/
  | invalidValue (word value : String)
  /-- No feature at all. -/
  | empty
  /-- The condition does not have the form that CSS asks for. -/
  | malformed (text : String)
deriving DecidableEq

/-- The text of an error. -/
def Error.message : Error → String
  | missingLead token => "media token must start with MQ: " ++ token
  | unknownFeature rest => "unknown media feature at `" ++ rest ++ "`"
  | incompleteFeature word =>
    "media feature `" ++ word ++ "` needs a range (Min/Max) and a dimension"
  | invalidValue word value =>
    "invalid value `" ++ value ++ "` for media feature `" ++ word ++ "`"
  | empty => "media token has no features"
  | malformed text => "rendered media condition `" ++ text ++ "` is not valid"

/-! ### Values -/

/-- The spellings of the units in a token, longer ones first. -/
def scales : List (String × Scale) := [("DPPX", .dppx), ("DPI", .dpi), ("PX", .px)]

/-- The spellings of the orientations in a token. -/
def orientations : List (String × Orientation) :=
  [("Portrait", .portrait), ("Landscape", .landscape)]

/-- The value at the beginning of a text, and the rest of it. An orientation is a value; otherwise
    the value is as many digits as there are and a unit, if one follows. -/
def splitValue (cs : List Char) : List Char × List Char :=
  match orientations.find? fun o => o.1.toList.isPrefixOf cs with
  | some o => cs.splitAt o.1.length
  | none =>
    let rest := cs.dropWhile Char.isDigit
    let unitLength :=
      match scales.find? fun s => s.1.toList.isPrefixOf rest with
      | some s => s.1.length
      | none => 0
    cs.splitAt ((cs.takeWhile Char.isDigit).length + unitLength)

/-- The amount that a value spells: a number of 32 bits and a unit. -/
def amount? (value : List Char) : Option Amount := do
  let number ← word? (value.takeWhile Char.isDigit)
  let scale ← scales.lookup (String.ofList (value.dropWhile Char.isDigit))
  return ⟨number, scale⟩

/-- The feature that a word and its value stand for. -/
def feature (word : Word) (value : List Char) : Except Error Feature :=
  let invalid := Error.invalidValue word.text (String.ofList value)
  match word with
  | .orientation =>
    match orientations.lookup (String.ofList value) with
    | some o => .ok (.orientation o)
    | none => .error invalid
  | .bare bound => .error (.incompleteFeature (Word.boundText bound))
  | .range bound quantity =>
    match amount? value with
    | some amount =>
      if quantity.fits amount.scale then .ok (.range bound quantity amount) else .error invalid
    | none => .error invalid

/-! ### Tokens -/

/-- A word takes at least one character of the text. -/
theorem Word.length_of_read? {cs rest : List Char} {w : Word} (h : read? cs = some (w, rest)) :
    rest.length < cs.length := by
  obtain ⟨v, _, hv⟩ := List.exists_of_findSome?_eq_some h
  obtain ⟨r, hr, he⟩ := Option.map_eq_some_iff.mp hv
  obtain ⟨rfl, rfl⟩ := Prod.mk.inj he
  rw [afterLead?_eq_some_iff] at hr
  have : 0 < v.text.toList.length := by
    cases v with
    | orientation => decide
    | range b q => cases b <;> cases q <;> decide
    | bare b => cases b <;> decide
  rw [hr, List.length_append]
  omega

/-- A value takes no more than there is. -/
theorem length_splitValue_le (cs : List Char) : (splitValue cs).2.length ≤ cs.length := by
  unfold splitValue
  split <;> simp

/-- The features that a text spells, pair after pair up to its end. The first pair that is no
    feature decides the error. -/
def readFeatures (cs : List Char) : Except Error (List Feature) :=
  match cs with
  | [] => .ok []
  | c :: cs =>
    match _h : Word.read? (c :: cs) with
    | none => .error (.unknownFeature (String.ofList (c :: cs)))
    | some (word, rest) => do
      let f ← feature word (splitValue rest).1
      let fs ← readFeatures (splitValue rest).2
      return f :: fs
termination_by cs.length
decreasing_by
  exact Nat.lt_of_le_of_lt (length_splitValue_le rest) (Word.length_of_read? _h)

/-- The condition that a token stands for. -/
def Condition.ofToken (token : String) : Except Error Condition :=
  match afterLead? "MQ".toList token.toList with
  | none => .error (.missingLead token)
  | some pairs => do
    let fs ← readFeatures pairs
    if fs.isEmpty then .error .empty
    else
      let condition := Condition.mk fs
      if isWellFormed condition.css then .ok condition else .error (.malformed condition.css)

/-- Describes the tokens in which every word is followed by some value, whether it suits the word or
    not. -/
def tokenPattern : Pattern :=
  let word :=
    Pattern.text "Orientation" |||
      Pattern.anyText ["Max", "Min"] ++
        Pattern.optional (Pattern.anyText ["Width", "Height", "Resolution"])
  let value :=
    Pattern.anyText ["Portrait", "Landscape"] |||
      Pattern.digits ++ Pattern.anyText ["DPI", "DPPX", "PX"]
  Pattern.text "MQ" ++ Pattern.many1 (word ++ value)

end ClassSheet.Media
