import ClassSheet.Config.Basic
import ClassSheet.Text.JsonString

/-! # Settings in JSON

Settings are written as an object with a member for each, and read from an object that may leave
some out or from an array that gives the first few in order. Every value is a string. A name that is
no setting, one that comes twice, and anything that is not JSON are refused. -/

namespace ClassSheet.Config

open ClassSheet.Text

/-! ### Reading -/

/-- A text without the white space of JSON at its beginning. -/
def skipSpace (cs : List Char) : List Char :=
  cs.dropWhile fun c => c == ' ' || c == '\t' || c == '\n' || c == '\r'

/-- The text behind a sign, with the white space in front of the sign and behind it skipped. -/
def sign? (sign : Char) (cs : List Char) : Option (List Char) :=
  match skipSpace cs with
  | c :: rest => if c == sign then some (skipSpace rest) else none
  | [] => none

/-- A member of an object: a name and its value. -/
def member? (cs : List Char) : Option ((String × String) × List Char) := do
  let (name, rest) ← JsonString.read? (skipSpace cs)
  let (value, rest) ← JsonString.read? (← sign? ':' rest)
  return ((name, value), rest)

/-- A string of an array. -/
def item? (cs : List Char) : Option (String × List Char) := JsonString.read? (skipSpace cs)

/-- The entries of an object or an array after the first one, each behind a comma, up to the closing
    sign, and the text behind that. At most `fuel` entries are read. -/
def entries? {α : Type} (read : List Char → Option (α × List Char)) (close : Char) :
    Nat → List Char → Option (List α × List Char)
  | 0, _ => none
  | fuel + 1, cs =>
    match sign? close cs with
    | some rest => some ([], rest)
    | none => do
      let (entry, rest) ← read (← sign? ',' cs)
      let (entries, rest) ← entries? read close fuel rest
      return (entry :: entries, rest)

/-- The entries of an object or an array between its signs, and the text behind it. -/
def listed? {α : Type} (read : List Char → Option (α × List Char)) (opening close : Char)
    (cs : List Char) : Option (List α × List Char) := do
  let inside ← sign? opening cs
  match sign? close inside with
  | some rest => some ([], rest)
  | none => do
    let (entry, rest) ← read inside
    let (entries, rest) ← entries? read close rest.length rest
    return (entry :: entries, rest)

/-- The settings that an object changes, in the order of its members; no member may come twice. -/
def fields? : List (String × String) → Option (List (Field × String))
  | [] => some []
  | (name, value) :: members => do
    let field ← Field.ofName? name
    let fields ← fields? members
    if fields.any (·.1 == field) then none else some ((field, value) :: fields)

/-- The settings that an array changes: the first ones, in order. -/
def positional? (values : List String) : Option (List (Field × String)) :=
  if values.length ≤ Field.all.length then some (Field.all.zip values) else none

/-- The default settings with some of them changed. -/
def withFields (fields : List (Field × String)) : Config :=
  fields.foldl (fun c (field, value) => c.set field value) default

/-- The settings that a text of JSON spells, unchecked. -/
def read? (json : String) : Option Config := do
  let cs := json.toList
  let (fields, rest) ←
    match listed? member? '\x7b' '\x7d' cs with
    | some (members, rest) => (fields? members).map (·, rest)
    | none =>
      match listed? item? '[' ']' cs with
      | some (values, rest) => (positional? values).map (·, rest)
      | none => none
  if (skipSpace rest).isEmpty then some (withFields fields) else none

/-- The settings that a text of JSON spells, checked. -/
def ofJson (json : String) : Except Error Config :=
  match read? json with
  | none => .error .json
  | some config => config.check.map fun _ => config

/-! ### Writing -/

/-- The settings as a JSON object without spaces. -/
def toJson (c : Config) : String :=
  let member (field : Field) : String :=
    JsonString.literal field.name ++ ":" ++ JsonString.literal (c.get field)
  "\x7b" ++ String.intercalate "," (Field.all.map member) ++ "\x7d"

end ClassSheet.Config
