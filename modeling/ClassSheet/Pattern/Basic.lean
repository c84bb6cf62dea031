/-! # Patterns

Regular patterns over characters. `Pattern.Matches` says which texts a pattern describes;
`Pattern.accepts` decides it by taking derivatives, one character at a time. The two are related in
`ClassSheet.Pattern.Matching`. -/

namespace ClassSheet

/-- A description of a set of texts. -/
inductive Pattern where
  /-- No text at all. -/
  | never
  /-- The empty text only. -/
  | empty
  /-- The texts of one character that satisfies the test. -/
  | one (test : Char → Bool)
  /-- A text of the first pattern followed by one of the second. -/
  | seq (p q : Pattern)
  /-- A text of either pattern. -/
  | alt (p q : Pattern)
  /-- Any number of texts of the pattern, one after the other. -/
  | many (p : Pattern)

namespace Pattern

instance : Append Pattern := ⟨seq⟩

instance : OrOp Pattern := ⟨alt⟩

/-! ### Meaning -/

/-- Whether a pattern describes a text. -/
def Matches : Pattern → List Char → Prop
  | never, _ => False
  | empty, s => s = []
  | one test, s => ∃ c, test c = true ∧ s = [c]
  | seq p q, s => ∃ a b, s = a ++ b ∧ p.Matches a ∧ q.Matches b
  | alt p q, s => p.Matches s ∨ q.Matches s
  | many p, s => ∃ parts : List (List Char), s = parts.flatten ∧ ∀ t ∈ parts, p.Matches t

/-! ### Deciding -/

/-- Whether a pattern describes the empty text. -/
def nullable : Pattern → Bool
  | never => false
  | empty => true
  | one _ => false
  | seq p q => p.nullable && q.nullable
  | alt p q => p.nullable || q.nullable
  | many _ => true

/-- `seq`, with the cases simplified in which one side is `never` or `empty`. -/
def join : Pattern → Pattern → Pattern
  | never, _ => never
  | _, never => never
  | empty, q => q
  | p, empty => p
  | p, q => seq p q

/-- `alt`, with the cases simplified in which one side is `never`. -/
def either : Pattern → Pattern → Pattern
  | never, q => q
  | p, never => p
  | p, q => alt p q

/-- What may follow the character `c` in a text of the pattern. -/
def deriv (c : Char) : Pattern → Pattern
  | never => never
  | empty => never
  | one test => if test c then empty else never
  | seq p q =>
    if p.nullable then either (join (p.deriv c) q) (q.deriv c) else join (p.deriv c) q
  | alt p q => either (p.deriv c) (q.deriv c)
  | many p => join (p.deriv c) (many p)

/-- Decides whether a pattern describes a text. -/
def accepts (p : Pattern) (s : List Char) : Bool :=
  (s.foldl (fun p c => p.deriv c) p).nullable

/-! ### Derived patterns -/

/-- One given text. -/
def text (s : String) : Pattern := s.toList.foldr (fun c p => seq (one (· == c)) p) empty

/-- A text of one of several patterns. -/
def oneOf (ps : List Pattern) : Pattern := ps.foldr alt never

/-- One of several given texts. -/
def anyText (texts : List String) : Pattern := oneOf (texts.map text)

/-- The pattern or nothing. -/
def optional (p : Pattern) : Pattern := alt p empty

/-- At least one text of the pattern. -/
def many1 (p : Pattern) : Pattern := seq p (many p)

/-- Exactly `n` texts of the pattern. -/
def times : Nat → Pattern → Pattern
  | 0, _ => empty
  | n + 1, p => seq p (times n p)

/-- At most `n` texts of the pattern. -/
def atMost : Nat → Pattern → Pattern
  | 0, _ => empty
  | n + 1, p => optional (seq p (atMost n p))

/-- At least `n` texts of the pattern. -/
def atLeast (n : Nat) (p : Pattern) : Pattern := seq (times n p) (many p)

/-- At least one text of `p`, with a text of `sep` between neighbours. -/
def separated (sep p : Pattern) : Pattern := seq p (many (seq sep p))

/-- Some decimal digits. -/
def digits : Pattern := many1 (one Char.isDigit)

/-- A lower-case ASCII letter. -/
def lower : Pattern := one Char.isLower

end Pattern

end ClassSheet
