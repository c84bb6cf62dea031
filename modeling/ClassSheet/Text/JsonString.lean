/-! # Strings of JSON

String literals as JSON writes them. A code point beyond the basic plane may be written as two
numbers of sixteen bits; half of such a pair alone is no string. -/

namespace ClassSheet.Text.JsonString

/-! ### Reading -/

/-- A piece of a literal: a character, or a number of sixteen bits. -/
inductive Piece where
  | char (c : Char)
  | code (n : Nat)

/-- The value of a hexadecimal digit. -/
def hexValue? (c : Char) : Option Nat :=
  if c.isDigit then some (c.toNat - '0'.toNat)
  else if 'a' ≤ c && c ≤ 'f' then some (c.toNat - 'a'.toNat + 10)
  else if 'A' ≤ c && c ≤ 'F' then some (c.toNat - 'A'.toNat + 10)
  else none

/-- The number that four hexadecimal digits spell. -/
def code? (a b c d : Char) : Option Nat := do
  return ((← hexValue? a) * 16 + (← hexValue? b)) * 256 + (← hexValue? c) * 16 + (← hexValue? d)

/-- The character that a letter behind a backslash stands for. -/
def escaped? : Char → Option Char
  | '"' => some '"'
  | '\\' => some '\\'
  | '/' => some '/'
  | 'b' => some '\x08'
  | 'f' => some '\x0c'
  | 'n' => some '\n'
  | 'r' => some '\r'
  | 't' => some '\t'
  | _ => none

/-- The pieces of a literal up to its closing quote, and the text behind it. A control character has
    to be escaped. -/
def pieces? : List Char → Option (List Piece × List Char)
  | [] => none
  | '"' :: rest => some ([], rest)
  | '\\' :: 'u' :: a :: b :: c :: d :: rest => do
    let n ← code? a b c d
    let (ps, rest) ← pieces? rest
    return (.code n :: ps, rest)
  | '\\' :: e :: rest => do
    let c ← escaped? e
    let (ps, rest) ← pieces? rest
    return (.char c :: ps, rest)
  | c :: rest => do
    if c == '\\' || c.toNat < 0x20 then none
    let (ps, rest) ← pieces? rest
    return (.char c :: ps, rest)

/-- The characters of pieces: a high and a low half together are one character, and neither stands
    alone. -/
def chars? : List Piece → Option (List Char)
  | [] => some []
  | .char c :: rest => (chars? rest).map (c :: ·)
  | .code n :: rest =>
    if 0xD800 ≤ n ∧ n < 0xDC00 then
      match rest with
      | .code m :: rest =>
        if 0xDC00 ≤ m ∧ m < 0xE000 then
          (chars? rest).map (Char.ofNat (0x10000 + (n - 0xD800) * 0x400 + (m - 0xDC00)) :: ·)
        else none
      | _ => none
    else if 0xDC00 ≤ n ∧ n < 0xE000 then none
    else (chars? rest).map (Char.ofNat n :: ·)

/-- The string at the beginning of a text, and the text behind it. -/
def read? : List Char → Option (String × List Char)
  | '"' :: rest => do
    let (ps, rest) ← pieces? rest
    return (String.ofList (← chars? ps), rest)
  | _ => none

/-! ### Writing -/

/-- A hexadecimal digit in lower case. -/
def hexDigit (n : Nat) : Char := Nat.digitChar n

/-- A character as it stands inside a literal. -/
def escapedChar (c : Char) : List Char :=
  if c == '"' || c == '\\' then ['\\', c]
  else if c == '\x08' then ['\\', 'b']
  else if c == '\x0c' then ['\\', 'f']
  else if c == '\n' then ['\\', 'n']
  else if c == '\r' then ['\\', 'r']
  else if c == '\t' then ['\\', 't']
  else if c.toNat < 0x20 then
    ['\\', 'u', '0', '0', hexDigit (c.toNat / 16), hexDigit (c.toNat % 16)]
  else [c]

/-- A string as JSON writes it. -/
def literal (s : String) : String := "\"" ++ String.ofList (s.toList.flatMap escapedChar) ++ "\""

end ClassSheet.Text.JsonString
