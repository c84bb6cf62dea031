import ClassSheet.Text.Blank

/-! # Class lists

The classes of an element: tokens in the order in which they were added, none of them twice. -/

namespace ClassSheet.Dom

open ClassSheet.Text

/-- The classes of an element, in order. -/
structure ClassList where
  tokens : List String
deriving DecidableEq

namespace ClassList

/-- The list without a token. -/
def empty : ClassList := ⟨[]⟩

/-- Whether a text may be a token: it is not empty and holds no white space. -/
def isToken (s : String) : Bool := !s.isEmpty && !s.toList.any isBlank

/-- Whether a token is in the list. -/
def contains (l : ClassList) (token : String) : Bool := l.tokens.contains token

/-- The number of tokens. -/
def length (l : ClassList) : Nat := l.tokens.length

/-- The list with a token at its end, and whether that changed it. A text that is no token and a
    token that is already there change nothing. -/
def add (l : ClassList) (token : String) : Bool × ClassList :=
  if isToken token && !l.contains token then (true, ⟨l.tokens ++ [token]⟩) else (false, l)

/-- Adding a token keeps all others. -/
theorem mem_tokens_add {l : ClassList} {token x : String} :
    x ∈ (l.add token).2.tokens ↔ x ∈ l.tokens ∨ x = token ∧ isToken token = true := by
  unfold add contains
  split <;> grind

/-- The list without a token, and whether that changed it. -/
def remove (l : ClassList) (token : String) : Bool × ClassList :=
  (l.contains token, ⟨l.tokens.filter (· != token)⟩)

/-- The list of the words of a `class` attribute. -/
def ofValue (value : String) : ClassList := (words value).foldl (fun l t => (l.add t).2) empty

/-- The value of the `class` attribute that a list stands for. -/
def value (l : ClassList) : String := String.intercalate " " l.tokens

end ClassList

end ClassSheet.Dom
