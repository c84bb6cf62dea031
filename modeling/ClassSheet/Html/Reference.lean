import ClassSheet.Html.Reference.Table
import ClassSheet.Text.Blank

/-! # Character references

References such as `&amp;` and `&#65;` in texts and attribute values, and the characters they stand
for.

Part of the input layer in the place of an HTML parser (see `ClassSheet.Html.Source`). -/

namespace ClassSheet.Html

open ClassSheet.Text

/-- The character that replaces one that may not stand in a page. -/
def replacement : Char := Char.ofNat 0xFFFD

/-- A reference at the beginning of a text: the characters it stands for, its length without the
    ampersand, and whether a semicolon closes it. -/
structure Reference where
  chars : List Char
  length : Nat
  closed : Bool

namespace Reference

/-- Where a reference stands. -/
inductive Setting where
  | text
  | attribute
deriving DecidableEq

/-! ### By number -/

/-- The code points that the numbers from `0x80` to `0x9F` stand for, as far as they do not stand
    for themselves. -/
def windowsCodes : List (Nat × Nat) :=
  [(0x80, 0x20AC), (0x82, 0x201A), (0x83, 0x192), (0x84, 0x201E), (0x85, 0x2026), (0x86, 0x2020),
    (0x87, 0x2021), (0x88, 0x2C6), (0x89, 0x2030), (0x8A, 0x160), (0x8B, 0x2039), (0x8C, 0x152),
    (0x8E, 0x17D), (0x91, 0x2018), (0x92, 0x2019), (0x93, 0x201C), (0x94, 0x201D), (0x95, 0x2022),
    (0x96, 0x2013), (0x97, 0x2014), (0x98, 0x2DC), (0x99, 0x2122), (0x9A, 0x161), (0x9B, 0x203A),
    (0x9C, 0x153), (0x9E, 0x17E), (0x9F, 0x178)]

/-- The character that a number stands for. Zero, halves of a pair and numbers that are too large
    stand for the replacement character. -/
def charOfNumber (n : Nat) : Char :=
  if n = 0 ∨ (0xD800 ≤ n ∧ n < 0xE000) ∨ 0x10FFFF < n then replacement
  else Char.ofNat ((windowsCodes.lookup n).getD n)

/-- Whether a character is a hexadecimal digit. -/
def isHexDigit (c : Char) : Bool := c.isDigit || ('a' ≤ c && c ≤ 'f') || ('A' ≤ c && c ≤ 'F')

/-- The value of a decimal or hexadecimal digit. -/
def digitValue (c : Char) : Nat :=
  if c.isDigit then c.toNat - '0'.toNat
  else if 'a' ≤ c then c.toNat - 'a'.toNat + 10
  else c.toNat - 'A'.toNat + 10

/-- The number that digits in a base spell. -/
def valueOf (base : Nat) (digits : List Char) : Nat :=
  digits.foldl (fun n d => base * n + digitValue d) 0

/-- The reference by a number whose digits begin a text. A semicolon behind them belongs to it. -/
def numbered? (base : Nat) (isDigit : Char → Bool) (cs : List Char) : Option Reference :=
  match cs.takeWhile isDigit with
  | [] => none
  | digits =>
    let closed := (cs.drop digits.length).head? == some ';'
    some ⟨[charOfNumber (valueOf base digits)], digits.length + closed.toNat, closed⟩

/-! ### By name -/

/-- The name and the characters of an entry of `nameRows`. -/
def entryOf (entry : List Char) : String × List Char :=
  let name := entry.takeWhile (· != '=')
  let codes := pieces (· == '+') (entry.drop (name.length + 1))
  (String.ofList name, codes.map fun digits => Char.ofNat (valueOf 16 digits))

/-- Every name with the characters that it stands for. -/
def named : List (String × List Char) :=
  nameRows.flatMap fun row => (pieces (· == ' ') row.toList).map entryOf

/-- The reference by a name at the beginning of a text: the longest name with its semicolon, or else
    one of `bareNames`. In the value of an attribute a bare name counts only if neither a letter or
    digit nor an equals sign follows. -/
def named? (setting : Setting) (cs : List Char) : Option Reference :=
  let run := cs.takeWhile Char.isAlphanum
  let bare? := do
    let name ← bareNames.find? (·.toList.isPrefixOf run)
    let continues := (cs.drop name.length).head?.any fun c => c.isAlphanum || c == '='
    if setting = .attribute ∧ continues then none
    else return ⟨← named.lookup name, name.length, false⟩
  if (cs.drop run.length).head? = some ';' then
    ((named.lookup (String.ofList run)).map fun chars => ⟨chars, run.length + 1, true⟩) <|> bare?
  else bare?

/-! ### References in a text -/

/-- The reference with characters in front that belong to it. -/
def behind (n : Nat) (r : Reference) : Reference := { r with length := n + r.length }

/-- The reference whose ampersand stands in front of a text. -/
def ofChars? (setting : Setting) : List Char → Option Reference
  | '#' :: 'x' :: cs | '#' :: 'X' :: cs => (numbered? 16 isHexDigit cs).map (behind 2)
  | '#' :: cs => (numbered? 10 Char.isDigit cs).map (behind 1)
  | cs => named? setting cs

/-- A text with its references replaced. The first `skip` characters belong to a reference that has
    been replaced already. -/
def decodeFrom (setting : Setting) : Nat → List Char → List Char
  | _, [] => []
  | skip + 1, _ :: cs => decodeFrom setting skip cs
  | 0, c :: cs =>
    if c == '&' then
      match ofChars? setting cs with
      | some r => r.chars ++ decodeFrom setting r.length cs
      | none => c :: decodeFrom setting 0 cs
    else c :: decodeFrom setting 0 cs

/-- A text with its references replaced by the characters they stand for. -/
def decode (setting : Setting) (cs : List Char) : List Char := decodeFrom setting 0 cs

end Reference

end ClassSheet.Html
