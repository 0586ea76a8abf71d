import GraphTalk.Number.Double

/-!
# Shortest decimal text

The fewest decimal digits that read back as a given double, and the text they are laid out in.

The reals that round to a double form an interval, closed when the mantissa is even. On the grid
of decimals with `n` digits the two neighbours of the double are tried; the first `n` with a
neighbour inside the interval gives the digits.
-/

namespace GraphTalk.Double

/-- Decimal digits with the place of the point: the number is `0.digits · 10 ^ point`. -/
structure Digits where
  /-- The digits, read as a natural number. -/
  digits : Nat
  /-- How far the point stands to the right of the first digit's left. -/
  point : Int
deriving DecidableEq, Repr, Inhabited

/-- A positive fraction. -/
structure Fraction where
  num : Nat
  den : Nat

/-- The power of ten above a positive fraction: the least `p` with `num / den < 10 ^ p`, found by
counting up from below. -/
def decimalPoint (f : Fraction) : Int :=
  if f.num ≥ f.den then decimalLength (f.num / f.den)
  else climb 400 f.num 0
where
  /-- Multiplies by ten until the fraction reaches one. -/
  climb : Nat → Nat → Int → Int
    | 0, _, p => p
    | fuel + 1, num, p => if 10 * num ≥ f.den then p else climb fuel (10 * num) (p - 1)

/-- Of the two decimals with `n` digits next to the value, the one inside the interval that is
nearer; a tie goes to the even one. All numbers are over the same denominator. -/
def onGrid? (low value high den : Nat) (closed : Bool) : Option Nat :=
  let below := value / den
  let above := below + 1
  let inside (d : Nat) : Bool :=
    if closed then low ≤ d * den && d * den ≤ high else low < d * den && d * den < high
  match inside below, inside above with
  | true, true =>
    let r := value % den
    if 2 * r < den then some below
    else if 2 * r > den then some above
    else if below % 2 = 0 then some below else some above
  | true, false => some below
  | false, true => some above
  | false, false => none

/-- Tries the grids with `n`, `n + 1`, … digits. -/
def search (low value high den : Nat) (closed : Bool) (point : Int) : Nat → Nat → Nat × Nat
  | 0, n => (0, n)
  | fuel + 1, n =>
    let shift := (n : Int) - point
    let up := tenTo shift.toNat
    let down := tenTo (-shift).toNat
    match onGrid? (low * up) (value * up) (high * up) (den * down) closed with
    | some d => (d, n)
    | none => search low value high den closed point fuel (n + 1)

/-- The digits of a natural number without the zeros at its end. -/
def dropZeros : Nat → Nat → Nat
  | 0, d => d
  | fuel + 1, d => if d ≠ 0 ∧ d % 10 = 0 then dropZeros fuel (d / 10) else d

/-- The fewest digits that read back as `mantissa · 2 ^ exponent`, which is positive. -/
def shortest (m : Nat) (e : Int) : Digits :=
  let q := e - 2
  let up := scaleUp 1 q
  let den := scaleDown q
  -- the double below is only half a step away at a power of two
  let gap := if m = twoTo 52 ∧ e > leastExponent then 1 else 2
  let point := decimalPoint ⟨4 * m * up, den⟩
  let (d, n) := search ((4 * m - gap) * up) (4 * m * up) ((4 * m + 2) * up) den (m % 2 = 0)
    point 20 1
  { digits := dropZeros 20 d
    point := point + (decimalLength d - n : Int) }

/-- How digits are laid out as text. -/
structure Layout where
  /-- Digits whose point is above the first and at most the second are written out. -/
  positional : Int × Int
  /-- The least number of digits in an exponent. -/
  exponentWidth : Nat
  /-- A single digit before an exponent is followed by a point and a zero. -/
  alwaysPoint : Bool := false

/-- Zeros to fill up with. -/
def fill (n : Nat) : String := String.ofList (List.replicate n '0')

/-- Digits with a point where it belongs, and a digit on both sides of it. -/
def positional (ds : String) (point : Int) : String :=
  if point ≤ 0 then "0." ++ fill (-point).toNat ++ ds
  else if ds.length ≤ point.toNat then ds ++ fill (point.toNat - ds.length) ++ ".0"
  else
    String.ofList (ds.toList.take point.toNat) ++ "." ++ String.ofList (ds.toList.drop point.toNat)

/-- Digits with a power of ten behind them. -/
def scientific (layout : Layout) (ds : String) (point : Int) : String :=
  let power := point - 1
  let size := toString power.natAbs
  let mantissa := match ds.toList with
    | [] => "0"
    | [d] => String.ofList (if layout.alwaysPoint then [d, '.', '0'] else [d])
    | d :: rest => String.ofList (d :: '.' :: rest)
  mantissa ++ (if power < 0 then "e-" else "e+") ++
    fill (layout.exponentWidth - size.length) ++ size

/-- Digits laid out as text. -/
def Digits.render (layout : Layout) (x : Digits) : String :=
  let ds := toString x.digits
  if layout.positional.1 < x.point ∧ x.point ≤ layout.positional.2 then positional ds x.point
  else scientific layout ds x.point

/-- Numbers from `0.0001` up to `10 ^ 16` are written out, and an exponent has two digits at
least. -/
def layout : Layout := { positional := (-4, 16), exponentWidth := 2 }

/-- The text of a double: its shortest digits, with a sign for what is negative. -/
def render : Double → String
  | .nan => "nan"
  | .infinity negative => if negative then "-inf" else "inf"
  | .finite negative m e =>
    (if negative then "-" else "") ++ (if m = 0 then "0.0" else (shortest m e).render layout)

end GraphTalk.Double
