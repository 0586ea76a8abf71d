import GraphTalk.Number.Shortest

/-!
# Doubles with a fixed number of digits

The text of a double that is cut to a number of significant digits, as columns of text hold it.
-/

namespace GraphTalk.Double

/-- The first `n` digits of `mantissa · 2 ^ exponent`, which is positive; the last is rounded, a
half to the even digit. -/
def significant (n m : Nat) (e : Int) : Digits :=
  let num := scaleUp m e
  let den := scaleDown e
  let point := decimalPoint ⟨num, den⟩
  let shift := (n : Int) - point
  let d := roundQuotient (num * tenTo shift.toNat) (den * tenTo (-shift).toNat)
  { digits := dropZeros n d
    point := point + (decimalLength d - n : Int) }

/-- Columns of text hold doubles with fifteen digits and always with a point. -/
def columnLayout : Layout := { positional := (-4, 15), exponentWidth := 2, alwaysPoint := true }

/-- The text of a double in a column of text. What is not a number has none. -/
def columnText? : Double → Option String
  | .nan => none
  | .infinity negative => some (if negative then "-Inf" else "Inf")
  | .finite negative m e =>
    if m = 0 then some "0.0"
    else some ((if negative then "-" else "") ++ (significant 15 m e).render columnLayout)

end GraphTalk.Double
