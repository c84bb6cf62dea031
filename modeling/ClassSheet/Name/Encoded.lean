import ClassSheet.Css.Shape
import ClassSheet.Media.Token
import ClassSheet.Selector.Reach

/-! # Encoded class names

A class name that carries declarations has the form

    marker [media _] [reach _] [pseudo _] properties _ values [_IMPT]

where the parts in brackets may be missing. `EncodedName.parse?` takes a name apart,
`EncodedName.pattern` describes the names as a whole, and `EncodedName.className` is the class that
the rule of a name is keyed on. -/

namespace ClassSheet

open ClassSheet.Text

/-- The parts of an encoded class name, each as written. -/
structure EncodedName where
  /-- The whole name as found on the element. -/
  raw : String
  media : Option String
  reach : Option String
  pseudo : Option Pseudo
  /-- The property tokens, with dots between them. -/
  properties : String
  /-- The value tokens, with dots between them. -/
  values : String
  important : Bool
deriving DecidableEq

namespace EncodedName

/-- The text that marks an encoded name unless another one is chosen. -/
def defaultMarker : String := "lcs"

/-! ### The form of a name -/

/-- Describes property tokens with dots between them: words of at least two letters that begin with
    an upper-case one. -/
def propertiesPattern : Pattern :=
  Pattern.separated (Pattern.text ".")
    (Pattern.one Char.isUpper ++ Pattern.many1 (Pattern.one Char.isAlpha))

/-- Describes value tokens with dots between them, each of some shape. -/
def valuesPattern : Pattern :=
  Pattern.separated (Pattern.text ".") (Pattern.oneOf (Css.Shape.all.map Css.Shape.pattern))

/-- Describes the codes of the pseudo elements and classes. -/
def pseudoPattern : Pattern := Pattern.anyText (Pseudo.all.map Pseudo.code)

/-- Describes the encoded names with a given marker. -/
def pattern (marker : String) : Pattern :=
  let part (p : Pattern) := Pattern.optional (p ++ Pattern.text "_")
  Pattern.text marker ++ part Media.tokenPattern ++ part Reach.tokenPattern ++
    part pseudoPattern ++ propertiesPattern ++ Pattern.text "_" ++ valuesPattern ++
    Pattern.optional (Pattern.text "_IMPT")

/-- Whether a class name is an encoded one with the given marker. -/
def isEncoded (marker name : String) : Bool := (pattern marker).accepts name.toList

/-! ### Taking a name apart -/

/-- The first of several parts, if the pattern describes it, and the parts after it. -/
def takePart (p : Pattern) : List (List Char) → Option String × List (List Char)
  | [] => (none, [])
  | part :: parts =>
    if p.accepts part then (some (String.ofList part), parts) else (none, part :: parts)

/-- The parts in front of the properties, in their order and with nothing left over: a media token,
    a reach token and a pseudo code, each of which may be missing. -/
def parseScope? (parts : List (List Char)) :
    Option (Option String × Option String × Option Pseudo) :=
  let (media, parts) := takePart Media.tokenPattern parts
  let (reach, parts) := takePart Reach.tokenPattern parts
  let (pseudo, parts) := takePart pseudoPattern parts
  if parts.isEmpty then some (media, reach, pseudo.bind Pseudo.ofCode?) else none

/-- A name from its parts in reverse order, after the mark of importance has been taken off. -/
def ofReversedParts? (name : String) (important : Bool) : List (List Char) → Option EncodedName
  | values :: properties :: scope =>
    if propertiesPattern.accepts properties && valuesPattern.accepts values then
      (parseScope? scope.reverse).map fun (media, reach, pseudo) =>
        { raw := name, media, reach, pseudo, properties := String.ofList properties
          values := String.ofList values, important }
    else none
  | _ => none

/-- The parts of a class name with the given marker. No part holds an underscore, so the underscores
    of a name show where its parts end. -/
def parse? (marker name : String) : Option EncodedName := do
  let body ← afterLead? marker.toList name.toList
  -- the values and the properties end the name, so the parts are looked at from behind
  match (pieces (· == '_') body).reverse with
  | last :: parts =>
    if last = "IMPT".toList then ofReversedParts? name true parts
    else ofReversedParts? name false (last :: parts)
  | [] => none

/-! ### The generated class -/

/-- The text behind the generated class: all parts of the name but its marker. Its properties follow
    an extra underscore, so that names of different scope have different texts. -/
def classSource (n : EncodedName) : String :=
  let scope := [n.media, n.reach, n.pseudo.map Pseudo.code].filterMap id
  String.join (scope.map (· ++ "_")) ++ "_" ++ n.properties ++ "_" ++ n.values ++
    (if n.important then "_IMPT" else "")

/-- The characters that a generated class does not keep. -/
def isReplaced (c : Char) : Bool := ['.', '#', '(', ')', ','].contains c

/-- A text with each stretch of replaced characters turned into one underscore. -/
def sanitizeChars : List Char → List Char
  | [] => []
  | c :: cs =>
    if isReplaced c then
      if (cs.head?.map isReplaced).getD false then sanitizeChars cs else '_' :: sanitizeChars cs
    else c :: sanitizeChars cs

/-- A text as it may stand in a generated class. -/
def sanitize (s : String) : String := String.ofList (sanitizeChars s.toList)

/-- The class that the rule of a name is keyed on. -/
def className (n : EncodedName) : String := sanitize n.classSource

end EncodedName

end ClassSheet
