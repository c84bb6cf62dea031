/-! # Decimal numbers of 32 bits

Digit strings read as numbers that have to fit a 32-bit word, and such numbers in decimal. -/

namespace ClassSheet.Text

/-- The value of a digit string, the most significant digit first. -/
def decimalValue (digits : List Char) : Nat := Nat.ofDigitChars 10 digits 0

/-- The 32-bit number that a text spells in decimal: at least one digit, nothing but digits, any
    number of leading zeros, and a value below `2 ^ 32`. -/
def word? (text : List Char) : Option UInt32 :=
  if text.isEmpty || !text.all Char.isDigit then none
  else if decimalValue text < UInt32.size then some (UInt32.ofNat (decimalValue text))
  else none

/-- A 32-bit number in decimal, without leading zeros. -/
def wordText (n : UInt32) : String := String.ofList (Nat.toDigits 10 n.toNat)

/-- What a text has to be like to spell a number. -/
theorem word?_eq_some_iff {text : List Char} {n : UInt32} :
    word? text = some n ↔
      text ≠ [] ∧ (∀ c ∈ text, c.isDigit = true) ∧ decimalValue text = n.toNat := by
  have hdigits : (text.isEmpty || !text.all Char.isDigit) = false ↔
      text ≠ [] ∧ ∀ c ∈ text, c.isDigit = true := by
    simp [List.isEmpty_eq_false_iff]
  unfold word?
  split
  · next h =>
    -- the text is empty, or some character is no digit
    simp only [reduceCtorEq, false_iff, not_and]
    intro hne hall
    rw [hdigits.mpr ⟨hne, hall⟩] at h
    cases h
  · next h =>
    obtain ⟨hne, hall⟩ := hdigits.mp ((Bool.not_eq_true _).mp h)
    split
    · next hlt =>
      -- the value fits, so nothing is lost when it is stored
      have hvalue : (UInt32.ofNat (decimalValue text)).toNat = decimalValue text :=
        UInt32.toNat_ofNat_of_lt hlt
      rw [Option.some.injEq, ← UInt32.toNat_inj, hvalue]
      exact ⟨fun heq => ⟨hne, hall, heq⟩, fun h => h.2.2⟩
    · next hge =>
      simp only [reduceCtorEq, false_iff, not_and]
      intro _ _ heq
      -- no `UInt32` is as large as the value
      have := n.toNat_lt
      rw [UInt32.size] at hge
      omega

/-- A number reads back as itself. -/
theorem word?_wordText (n : UInt32) : word? (wordText n).toList = some n := by
  have hdigits : (Nat.toDigits 10 n.toNat).all Char.isDigit = true :=
    List.all_eq_true.mpr fun _ h => Nat.isDigit_of_mem_toDigits (by omega) (by omega) h
  have hvalue : decimalValue (Nat.toDigits 10 n.toNat) = n.toNat :=
    Nat.ofDigitChars_toDigits (by omega) (by omega)
  simp [word?, wordText, hdigits, hvalue, Nat.toDigits_ne_nil, n.toNat_lt]

end ClassSheet.Text
