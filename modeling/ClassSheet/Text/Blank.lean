/-! # White space

The characters that Unicode calls `White_Space`, and the two things this library does with them:
cutting a text into its words and telling whether a text is blank throughout. -/

namespace ClassSheet.Text

/-- Whether a character is white space: the tabs and line breaks of ASCII, the space, the next-line
    control, and the spaces and separators above Latin-1. -/
def isBlank (c : Char) : Bool :=
  let n := c.toNat
  (9 ≤ n && n ≤ 13) || n == 0x20 || n == 0x85 || n == 0xA0 || n == 0x1680 ||
    (0x2000 ≤ n && n ≤ 0x200A) || n == 0x2028 || n == 0x2029 || n == 0x202F || n == 0x205F ||
    n == 0x3000

/-- The pieces of a text between the characters that `isSep` picks; a text without one is a single
    piece, and two separators in a row leave an empty piece between them. -/
def pieces (isSep : Char → Bool) : List Char → List (List Char)
  | [] => [[]]
  | c :: cs =>
    if isSep c then [] :: pieces isSep cs
    else
      match pieces isSep cs with
      | [] => [[c]]
      | p :: ps => (c :: p) :: ps

/-- The words of a text: its longest stretches without white space, in order. -/
def words (s : String) : List String :=
  ((pieces isBlank s.toList).filter (!·.isEmpty)).map String.ofList

/-- Whether a text holds white space only; the empty text does. -/
def isBlankText (s : String) : Bool := s.toList.all isBlank

/-- What follows `lead` in a text that begins with it. -/
def afterLead? : List Char → List Char → Option (List Char)
  | [], cs => some cs
  | _ :: _, [] => none
  | l :: ls, c :: cs => if l == c then afterLead? ls cs else none

/-- There is always a piece, be it an empty one. -/
theorem pieces_ne_nil (isSep : Char → Bool) (cs : List Char) : pieces isSep cs ≠ [] := by
  cases cs with
  | nil => simp [pieces]
  | cons c cs =>
    simp only [pieces]
    split
    · simp
    · split <;> simp

/-- A text without a separator is a single piece. -/
theorem pieces_eq_singleton {isSep : Char → Bool} {cs : List Char}
    (h : ∀ c ∈ cs, isSep c = false) : pieces isSep cs = [cs] := by
  induction cs with
  | nil => rfl
  | cons d cs ih => simp_all [pieces]

/-- A separator ends a piece: the texts in front of it and behind it are cut on their own. -/
theorem pieces_append_cons {isSep : Char → Bool} {c : Char} (hc : isSep c = true)
    (xs ys : List Char) :
    pieces isSep (xs ++ c :: ys) = pieces isSep xs ++ pieces isSep ys := by
  induction xs with
  | nil => simp [pieces, hc]
  | cons d xs ih =>
    simp only [List.cons_append, pieces, ih]
    split
    · simp
    · have := pieces_ne_nil isSep xs
      cases h : pieces isSep xs with
      | nil => contradiction
      | cons q qs => simp

/-- A text begins with `lead` and goes on with `rest` exactly when it is their concatenation. -/
theorem afterLead?_eq_some_iff {lead cs rest : List Char} :
    afterLead? lead cs = some rest ↔ cs = lead ++ rest := by
  induction lead generalizing cs with
  | nil => simp [afterLead?, eq_comm]
  | cons l ls ih =>
    cases cs with
    | nil => simp [afterLead?]
    | cons c cs =>
      by_cases h : l = c
      · simp [afterLead?, h, ih]
      · simp [afterLead?, h, Ne.symm h]

end ClassSheet.Text
