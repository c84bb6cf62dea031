import ClassSheet.Css.Keyword.Table
import ClassSheet.Text.Blank
import ClassSheet.Text.Lowercase

/-! # Keywords

Class names write words without regard to case, hyphens and spaces. `Keyword.key` removes these
differences, and a word stands for the first entry of a table with the same key. -/

namespace ClassSheet.Css.Keyword

open ClassSheet.Text

/-- A text without hyphens and white space, in lower case. Texts with the same key are spellings of
    the same word. -/
def key (s : String) : String :=
  String.ofList ((s.toList.filter fun c => c != '-' && !isBlank c).flatMap lowerChar)

/-- The entries of a table with their keys, in the order of the table. -/
def indexed (entries : List String) : List (String × String) := entries.map fun e => (key e, e)

/-- The first entry of an indexed table that is spelled like `s`, up to its key. -/
def find? (index : List (String × String)) (s : String) : Option String :=
  index.lookup (key s)

/-- The words of every family, in the order of the families. -/
def words : List String := families.flatMap (·.2)

/-- The index of `words`. -/
def wordIndex : List (String × String) := indexed words

/-- The index of the colours. -/
def colorIndex : List (String × String) := indexed colorWords

/-- The index of the border styles. -/
def borderStyleIndex : List (String × String) := indexed borderStyleWords

/-- The keyword that a text stands for. -/
def word? (s : String) : Option String := find? wordIndex s

/-- The colour that a text stands for. -/
def color? (s : String) : Option String := find? colorIndex s

/-- The border style that a text stands for. -/
def borderStyle? (s : String) : Option String := find? borderStyleIndex s

end ClassSheet.Css.Keyword
