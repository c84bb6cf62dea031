import ClassSheet.Html.Reference
import ClassSheet.Text.Lowercase

/-! # Tags

The name and the attributes of a tag, read from the text behind its opening bracket. Tag and
attribute names come in lower case, and the references in attribute values are replaced.

Part of the input layer in the place of an HTML parser (see `ClassSheet.Html.Source`). -/

namespace ClassSheet.Html

open ClassSheet.Text

/-- The attributes of a tag, names with values. -/
abbrev Attributes := List (String × String)

/-- A text with the null character replaced. -/
def withoutNull (cs : List Char) : List Char :=
  cs.map fun c => if c == '\x00' then replacement else c

namespace Tag

/-- Whether a character separates the parts of a tag. -/
def isSpace (c : Char) : Bool := c == ' ' || c == '\t' || c == '\n' || c == '\x0c'

/-- Whether a character ends the name of a tag. -/
def endsName (c : Char) : Bool := isSpace c || c == '/' || c == '>'

/-- A name in a tag. -/
def nameOf (cs : List Char) : String := String.ofList ((withoutNull cs).map asciiLower)

/-! ### Attributes -/

/-- The value that a text spells. -/
def valueOf (cs : List Char) : String :=
  String.ofList (Reference.decode .attribute (withoutNull cs))

/-- The value up to a closing quote and the text behind the quote; nothing if there is none. -/
def readQuoted? (quote : Char) (cs : List Char) : Option (String × List Char) :=
  match cs.dropWhile (· != quote) with
  | [] => none
  | _ :: rest => some (valueOf (cs.takeWhile (· != quote)), rest)

/-- The value of an attribute at the beginning of a text, behind the equals sign and white space,
    and the text behind it; nothing if the page ends inside a quoted value. -/
def readValue? : List Char → Option (String × List Char)
  | '"' :: cs => readQuoted? '"' cs
  | '\'' :: cs => readQuoted? '\'' cs
  | cs =>
    let stops (c : Char) := isSpace c || c == '>'
    some (valueOf (cs.takeWhile (!stops ·)), cs.dropWhile (!stops ·))

/-- The name of an attribute at the beginning of a text and the text behind it. An equals sign in
    front belongs to the name. -/
def readName (cs : List Char) : String × List Char :=
  let stops (c : Char) := endsName c || c == '='
  match cs with
  | '=' :: rest => (nameOf ('=' :: rest.takeWhile (!stops ·)), rest.dropWhile (!stops ·))
  | cs => (nameOf (cs.takeWhile (!stops ·)), cs.dropWhile (!stops ·))

/-- The attributes up to the end of a tag and the text behind it, `fuel` attributes at most; nothing
    if the page ends inside the tag. -/
def readAttributes? : Nat → List Char → Option (Attributes × List Char)
  | 0, _ => none
  | fuel + 1, cs =>
    match cs.dropWhile fun c => isSpace c || c == '/' with
    | [] => none
    | '>' :: rest => some ([], rest)
    | cs => do
      let (name, rest) := readName cs
      let (value, rest) ←
        match rest.dropWhile isSpace with
        | '=' :: rest => readValue? (rest.dropWhile isSpace)
        | rest => some ("", rest)
      let (attributes, rest) ← readAttributes? fuel rest
      return ((name, value) :: attributes, rest)

/-- Attributes without those whose name has come before. -/
def distinct (attributes : Attributes) : Attributes :=
  attributes.foldl (fun seen a => if seen.any (·.1 == a.1) then seen else seen ++ [a]) []

/-! ### Whole tags -/

/-- The name and the attributes of a tag and the text behind it, `fuel` attributes at most; nothing
    if the page ends inside the tag. -/
def read? (fuel : Nat) (cs : List Char) : Option (String × Attributes × List Char) := do
  let (attributes, rest) ← readAttributes? fuel (cs.dropWhile (!endsName ·))
  return (nameOf (cs.takeWhile (!endsName ·)), distinct attributes, rest)

end Tag

end ClassSheet.Html
