import ClassSheet.Css.Color

/-! # Grid templates

The tracks of a grid: lengths, `minmax` and `fit-content` tracks, and a repeated group of them. -/

namespace ClassSheet.Css

open ClassSheet.Text

/-- The pieces of a token between the hyphens that stand outside brackets. A closing bracket without
    an opening one does not count. -/
def outerPieces (depth : Nat) : List Char → List (List Char)
  | [] => [[]]
  | c :: cs =>
    if c == '-' && depth == 0 then [] :: outerPieces depth cs
    else
      let inner := if c == '(' then depth + 1 else if c == ')' then depth - 1 else depth
      match outerPieces inner cs with
      | [] => [[c]]
      | p :: ps => (c :: p) :: ps

/-! ### Tracks -/

/-- A track of a grid. -/
inductive Track where
  | length (d : Dimension)
  | minMax (least greatest : Dimension)
  | fitContent (d : Dimension)
deriving DecidableEq

namespace Track

/-- The inside of `minmax`: two lengths with a hyphen between them. -/
def minMaxOfChars? (inside : List Char) : Option Track :=
  match inside.dropWhile (· != '-') with
  | [] => none
  | _ :: greatest => do
    return minMax (← Dimension.lengthOfChars? (inside.takeWhile (· != '-')))
      (← Dimension.lengthOfChars? greatest)

/-- The track that a token spells. -/
def ofChars? (token : List Char) : Option Track :=
  match call? token with
  | none => (Dimension.lengthOfChars? token).map length
  | some (name, inside) =>
    if name = "minmax".toList then minMaxOfChars? inside
    else if name = "fitcontent".toList then (Dimension.lengthOfChars? inside).map fitContent
    else none

/-- The CSS text of a track. -/
def css : Track → String
  | length d => d.css
  | minMax least greatest => "minmax(" ++ least.css ++ ", " ++ greatest.css ++ ")"
  | fitContent d => "fit-content(" ++ d.css ++ ")"

/-- Describes a `minmax` track in a class name. -/
def minMaxPattern : Pattern :=
  Pattern.text "minmax(" ++ Dimension.lengthPattern ++ Pattern.text "-" ++
    Dimension.lengthPattern ++ Pattern.text ")"

/-- Describes a `fit-content` track in a class name. -/
def fitContentPattern : Pattern :=
  Pattern.text "fitcontent(" ++ Dimension.lengthPattern ++ Pattern.text ")"

/-- Describes any track in a class name. -/
def pattern : Pattern := Dimension.lengthPattern ||| fitContentPattern ||| minMaxPattern

end Track

/-! ### Templates -/

/-- How often a group of tracks is repeated. -/
inductive RepeatCount where
  | times (n : Numeral)
  | autoFill
  | autoFit
deriving DecidableEq

namespace RepeatCount

/-- The count that a token spells. -/
def ofChars? (token : List Char) : Option RepeatCount :=
  if token = "autofill".toList then some autoFill
  else if token = "autofit".toList then some autoFit
  else (Numeral.ofChars? token).map times

/-- The CSS text of a count. -/
def css : RepeatCount → String
  | times n => n.css
  | autoFill => "auto-fill"
  | autoFit => "auto-fit"

/-- Describes a count in a class name. -/
def pattern : Pattern := Pattern.digits ||| Pattern.anyText ["autofill", "autofit"]

end RepeatCount

/-- An entry of a grid template: a track, or a repeated group of tracks. -/
inductive GridEntry where
  | track (t : Track)
  | repeated (count : RepeatCount) (tracks : List Track)
deriving DecidableEq

namespace GridEntry

/-- The inside of `repeat`: a count and at least one track, with hyphens between them. -/
def repeatedOfChars? (inside : List Char) : Option GridEntry :=
  match outerPieces 0 inside with
  | count :: t :: ts => do
    return repeated (← RepeatCount.ofChars? count) (← (t :: ts).mapM Track.ofChars?)
  | _ => none

/-- The entry that a token spells. -/
def ofChars? (token : List Char) : Option GridEntry :=
  match call? token with
  | some (name, inside) =>
    if name = "repeat".toList then repeatedOfChars? inside else (Track.ofChars? token).map track
  | none => (Track.ofChars? token).map track

/-- The CSS text of an entry. -/
def css : GridEntry → String
  | track t => t.css
  | repeated count tracks =>
    "repeat(" ++ count.css ++ ", " ++ String.intercalate " " (tracks.map Track.css) ++ ")"

/-- Describes a grid template in a class name: tracks of which the first is not a plain length, or
    one repeated group of lengths or of a single `minmax` track. -/
def templatePattern : Pattern :=
  (Track.fitContentPattern ||| Track.minMaxPattern) ++
      Pattern.many (Pattern.text "-" ++ Track.pattern) |||
    Pattern.text "repeat(" ++ RepeatCount.pattern ++ Pattern.text "-" ++
      (Pattern.separated (Pattern.text "-") Dimension.lengthPattern ||| Track.minMaxPattern) ++
      Pattern.text ")"

end GridEntry

end ClassSheet.Css
