import Mathlib.Tactic.Common
import GraphTalk.Number.Basic

/-!
# The characters of numbers

Whatever a number is, its text has digits, signs, points and the letters of exponents and of the
words for what is not finite, and nothing else. So the text ends where another character stands.
-/

namespace GraphTalk

/-- The characters that the texts of numbers are made of. -/
def isNumberChar (c : Char) : Bool := c.isDigit || "+-.eainf".toList.contains c

/-- A text that could be one of a number, as far as its characters go. -/
def Numeric (s : String) : Prop := ∀ c ∈ s.toList, isNumberChar c = true

-- the characters of the text are gone through, not all characters that there are
instance (s : String) : Decidable (Numeric s) :=
  List.decidableBAll (isNumberChar · = true) s.toList

lemma Numeric.append {s t : String} (hs : Numeric s) (ht : Numeric t) : Numeric (s ++ t) := by
  unfold Numeric
  rw [String.toList_append, List.forall_mem_append]
  exact ⟨hs, ht⟩

lemma numeric_ofList_digits {cs : List Char} (h : ∀ c ∈ cs, c.isDigit = true) :
    Numeric (String.ofList cs) := by
  intro c hc
  rw [String.toList_ofList] at hc
  simp [isNumberChar, h c hc]

/-! ### Integers -/

lemma numeric_nat (n : Nat) : Numeric (toString n) := by
  rw [Nat.toString_eq_repr, Nat.repr_eq_ofList_toDigits]
  exact numeric_ofList_digits fun c hc => Nat.isDigit_of_mem_toDigits (by decide) (by decide) hc

lemma numeric_int (n : Int) : Numeric (toString n) := by
  rw [Int.toString_eq_repr, Int.repr_eq_if]
  split
  · exact numeric_nat n.toNat
  · exact Numeric.append (by decide) (numeric_nat (-n).toNat)

/-! ### Doubles -/

namespace Double

lemma numeric_fill (n : Nat) : Numeric (fill n) := by
  refine numeric_ofList_digits fun c hc => ?_
  rw [List.eq_of_mem_replicate hc]
  decide

lemma numeric_ofList {ds : String} (hds : Numeric ds) {cs : List Char}
    (h : ∀ c ∈ cs, c ∈ ds.toList) : Numeric (String.ofList cs) := by
  intro c hc
  rw [String.toList_ofList] at hc
  exact hds c (h c hc)

lemma numeric_positional {ds : String} (hds : Numeric ds) (point : Int) :
    Numeric (positional ds point) := by
  unfold positional
  split
  · exact (Numeric.append (by decide) (numeric_fill _)).append hds
  · split
    · exact (hds.append (numeric_fill _)).append (by decide)
    · refine Numeric.append (Numeric.append ?_ (by decide)) ?_
      · exact numeric_ofList hds fun c hc => List.mem_of_mem_take hc
      · exact numeric_ofList hds fun c hc => List.mem_of_mem_drop hc

lemma numeric_scientific (l : Layout) {ds : String} (hds : Numeric ds) (point : Int) :
    Numeric (scientific l ds point) := by
  unfold scientific
  refine Numeric.append (Numeric.append (Numeric.append ?mantissa ?mark) (numeric_fill _))
    (numeric_nat _)
  case mark =>
    split
    · decide
    · decide
  case mantissa =>
    have hpoint : isNumberChar '.' = true := by decide
    have hzero : isNumberChar '0' = true := by decide
    unfold Numeric at hds ⊢
    split
    · simpa using hzero
    · rename_i d hd
      split
      · simpa [hd, hpoint, hzero] using hds
      · simpa [hd] using hds
    · rename_i d rest _ hd
      simpa [hd, hpoint] using hds

lemma numeric_render (x : Double) : Numeric x.render := by
  cases x with
  | nan => decide
  | infinity negative => cases negative <;> decide
  | finite negative m e =>
    unfold render
    refine Numeric.append ?sign ?digits
    case sign => cases negative <;> decide
    case digits =>
      split
      · decide
      · unfold Digits.render
        split
        · exact numeric_positional (numeric_nat _) _
        · exact numeric_scientific _ (numeric_nat _) _

end Double

/-- The text of a number in a program has no other characters than those of numbers. -/
lemma Number.numeric_render (n : Number) : Numeric n.render := by
  cases n with
  | int n => exact numeric_int n
  | float x =>
    simp only [Number.render]
    split
    · exact numeric_int _
    · exact Double.numeric_render x

end GraphTalk
