/-!
# Double-precision numbers

A double is kept as the exact number it denotes, so that everything about it is arithmetic on
integers: rounding a quotient to the nearest double, and the rational value of a double.
-/

namespace GraphTalk

/-- A double-precision number. A finite one is `± mantissa · 2 ^ exponent`. -/
inductive Double where
  /-- No number at all. -/
  | nan
  /-- Beyond all finite numbers. -/
  | infinity (negative : Bool)
  /-- A finite number; the sign is kept for zero too. -/
  | finite (negative : Bool) (mantissa : Nat) (exponent : Int)
deriving DecidableEq, Repr, Inhabited

namespace Double

/-- The exponent of the smallest steps. -/
def leastExponent : Int := -1074

/-- The largest exponent of a mantissa of 53 bits. -/
def greatestExponent : Int := 971

/-- Zero with a sign. -/
def zero (negative : Bool) : Double := .finite negative 0 leastExponent

/-- A power of two. -/
def twoTo (k : Nat) : Nat := Nat.pow 2 k

/-- A power of ten. -/
def tenTo (k : Nat) : Nat := Nat.pow 10 k

/-- A quotient rounded to the nearest natural number, a half to the even one. -/
def roundQuotient (num den : Nat) : Nat :=
  let q := num / den
  let r := num % den
  if 2 * r < den then q
  else if 2 * r > den then q + 1
  else if q % 2 = 0 then q else q + 1

/-- `num · 2 ^ e` as a numerator, when the denominator is multiplied by `scaleDown e`. -/
def scaleUp (num : Nat) (e : Int) : Nat := num * twoTo e.toNat

/-- The factor for the denominator that a negative exponent brings. -/
def scaleDown (e : Int) : Nat := twoTo (-e).toNat

/-- The largest `k` with `2 ^ k ≤ num / den`, for positive `num` and `den`. -/
def binaryExponent (num den : Nat) : Int :=
  let k : Int := (Nat.log2 num : Int) - Nat.log2 den
  if den * scaleUp 1 k ≤ num * scaleDown k then k else k - 1

/-- The double nearest to `± num / den`; a half goes to the even mantissa. -/
def ofRatio (negative : Bool) (num den : Nat) : Double :=
  if num = 0 then zero negative
  else
    let e := max (binaryExponent num den - 52) leastExponent
    let m := roundQuotient (num * scaleDown e) (den * scaleUp 1 e)
    let (m, e) := if m = twoTo 53 then (twoTo 52, e + 1) else (m, e)
    if e > greatestExponent then .infinity negative else .finite negative m e

/-- The number of decimal digits of a natural number. -/
def decimalLength (n : Nat) : Nat := (Nat.toDigits 10 n).length

/-- The double nearest to `± digits · 10 ^ exponent`. What is far beyond the largest or below the
smallest double is settled by the exponent alone. -/
def ofDecimal (negative : Bool) (digits : Nat) (exponent : Int) : Double :=
  if digits = 0 then zero negative
  else
    let top := exponent + decimalLength digits
    if top > 310 then .infinity negative
    else if top < -330 then zero negative
    else ofRatio negative (digits * tenTo exponent.toNat) (tenTo (-exponent).toNat)

/-- The double that a machine word stands for. -/
def ofFloat (x : Float) : Double :=
  let bits : Nat := x.toBits.toNat
  let negative := bits / twoTo 63 == 1
  let biased : Nat := bits / twoTo 52 % twoTo 11
  let fraction : Nat := bits % twoTo 52
  if biased = 2047 then
    if fraction = 0 then .infinity negative else .nan
  else if biased = 0 then .finite negative fraction leastExponent
  else .finite negative (twoTo 52 + fraction) ((biased : Int) - 1075)

/-- The machine word of a double. -/
def toFloat : Double → Float
  | .nan => 0.0 / 0.0
  | .infinity negative => if negative then -(1.0 / 0.0) else 1.0 / 0.0
  | .finite negative m e =>
    let x := (Float.ofNat m).scaleB e
    if negative then -x else x

/-- The exact value of a finite double. -/
def toRat? : Double → Option Rat
  | .finite negative m e =>
    let q : Rat := mkRat (scaleUp m e) (scaleDown e)
    some (if negative then -q else q)
  | _ => none

/-- The value of a double without a fraction. -/
def toInt? (x : Double) : Option Int :=
  match x.toRat? with
  | some q => if q.den = 1 then some q.num else none
  | none => none

end Double

end GraphTalk
