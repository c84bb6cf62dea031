import ClassSheet.Text.Decimal
import ClassSheet.Proofs.Text.Pieces

/-! # Texts without certain characters

A text lacks characters if none of them occurs in it (`Lacks`). Texts that are put together from
such texts lack the characters too. -/

namespace ClassSheet.Text

/-- None of the characters `xs` occurs in the text. -/
def Lacks (xs : List Char) (s : String) : Prop := ∀ c ∈ s.toList, c ∉ xs

namespace Lacks

variable {xs : List Char} {s t : String}

instance (xs : List Char) (s : String) : Decidable (Lacks xs s) :=
  inferInstanceAs (Decidable (∀ c ∈ s.toList, c ∉ xs))

/-- A text that lacks some characters lacks any selection of them. -/
theorem mono {ys : List Char} (h : Lacks xs s) (hys : ∀ y ∈ ys, y ∈ xs) : Lacks ys s :=
  fun c hc hmem => h c hc (hys c hmem)

/-- None of the characters occurs. -/
theorem not_mem {x : Char} (h : Lacks xs s) (hx : x ∈ xs) : x ∉ s.toList := fun hmem => h x hmem hx

/-- The text goes on as far as such a character does not come. -/
theorem bne {x : Char} (h : Lacks xs s) (hx : x ∈ xs) : ∀ c ∈ s.toList, (c != x) = true := by
  intro c hc
  refine bne_iff_ne.mpr fun heq => h.not_mem hx ?_
  rwa [← heq]

/-- A text of other characters. -/
theorem of_forall {cs : List Char} (h : ∀ c ∈ cs, c ∉ xs) : Lacks xs (String.ofList cs) := by
  intro c hc
  rw [String.toList_ofList] at hc
  exact h c hc

/-- Two texts that lack the characters, one behind the other. -/
theorem append (hs : Lacks xs s) (ht : Lacks xs t) : Lacks xs (s ++ t) := by
  intro c hc
  rw [String.toList_append, List.mem_append] at hc
  rcases hc with hc | hc
  · exact hs c hc
  · exact ht c hc

/-- Any number of such texts, one behind the other. -/
theorem join {l : List String} (h : ∀ s ∈ l, Lacks xs s) : Lacks xs (String.join l) := by
  intro c hc
  rw [String.toList_join] at hc
  obtain ⟨s, hs, hc⟩ := List.mem_flatMap.mp hc
  exact h s hs c hc

/-- Such texts with a separator between them. -/
theorem intercalate {sep : String} {l : List String} (hsep : Lacks xs sep)
    (h : ∀ s ∈ l, Lacks xs s) : Lacks xs (String.intercalate sep l) := by
  induction l with
  | nil => exact fun _ hc => nomatch hc
  | cons s l ih =>
    have hs := h s List.mem_cons_self
    cases l with
    | nil => simpa using hs
    | cons t l =>
      have hrest := ih fun u hu => h u (List.mem_cons_of_mem s hu)
      have hsplit : String.intercalate sep (s :: t :: l) =
          s ++ (sep ++ String.intercalate sep (t :: l)) := by
        simp [← String.toList_inj]
      rw [hsplit]
      exact hs.append (hsep.append hrest)

/-- The text of a value that may be missing. -/
theorem getD {α : Type} {o : Option α} {f : α → String} (h : ∀ a ∈ o, Lacks xs (f a)) :
    Lacks xs ((o.map f).getD "") := by
  cases o with
  | none => exact fun _ hc => nomatch hc
  | some a => exact h a rfl

/-- A number in decimal has digits only. -/
theorem wordText (hxs : ∀ x ∈ xs, x.isDigit = false) (n : UInt32) : Lacks xs (wordText n) := by
  refine of_forall fun c hc hmem => ?_
  have hdigit := Nat.isDigit_of_mem_toDigits (by omega) (by omega) hc
  rw [hxs c hmem] at hdigit
  cases hdigit

end Lacks

end ClassSheet.Text
