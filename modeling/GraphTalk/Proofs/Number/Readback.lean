import Mathlib.Data.Nat.Cast.Order.Field
import GraphTalk.Number.Shortest
import GraphTalk.Proofs.Number.Rounding

/-!
# Shortest digits read back

The digits that are found for a double are a decimal in its interval (`shortest_roundsTo`), so that
they are rounded to the double again. Some grid has such a decimal at the latest when its steps are
shorter than half a step of the doubles, which is so with eighteen digits.
-/

namespace GraphTalk.Double

/-! ### Grids -/

/-- A decimal lies between two bounds, or on one of them if these belong to the interval. -/
def Within (closed : Bool) (low high x : ℚ) : Prop :=
  if closed then low ≤ x ∧ x ≤ high else low < x ∧ x < high

/-- What is found on a grid is inside the interval. -/
lemma within_of_onGrid? {low value high den d : Nat} {closed : Bool} (hden : 0 < den)
    (h : onGrid? low value high den closed = some d) :
    Within closed (low / den) (high / den) d := by
  have hdenq : (0 : ℚ) < den := by exact_mod_cast hden
  have hinside : (if closed then low ≤ d * den && d * den ≤ high
      else low < d * den && d * den < high : Bool) = true := by
    simp only [onGrid?] at h
    split at h <;> grind
  cases closed with
  | true =>
    have hbounds : low ≤ d * den ∧ d * den ≤ high := by simpa using hinside
    refine ⟨?_, ?_⟩
    · rw [div_le_iff₀ hdenq]
      exact_mod_cast hbounds.1
    · rw [le_div_iff₀ hdenq]
      exact_mod_cast hbounds.2
  | false =>
    have hbounds : low < d * den ∧ d * den < high := by simpa using hinside
    refine ⟨?_, ?_⟩
    · rw [div_lt_iff₀ hdenq]
      exact_mod_cast hbounds.1
    · rw [lt_div_iff₀ hdenq]
      exact_mod_cast hbounds.2

/-- A grid with steps that are shorter than the way up from the value has a decimal inside. -/
lemma onGrid?_isSome {low value high den : Nat} (closed : Bool) (hden : 0 < den)
    (hlow : low ≤ value) (hhigh : value + den < high) :
    (onGrid? low value high den closed).isSome := by
  have hdivmod : value / den * den + value % den = value := Nat.div_add_mod' value den
  have hmod : value % den < den := Nat.mod_lt value hden
  have habove : low < (value / den + 1) * den ∧ (value / den + 1) * den < high := by
    rw [Nat.add_mul, Nat.one_mul]
    omega
  simp only [onGrid?]
  split <;> grind

/-- What is tried with `n` digits. -/
def gridAt? (low value high den : Nat) (closed : Bool) (point : Int) (n : Nat) : Option Nat :=
  let shift := (n : Int) - point
  onGrid? (low * tenTo shift.toNat) (value * tenTo shift.toNat) (high * tenTo shift.toNat)
    (den * tenTo (-shift).toNat) closed

section

variable {low value high den : Nat} {closed : Bool} {point : Int}

/-- If some grid that is tried has a decimal inside, one is found. -/
lemma gridAt?_search {fuel n k : Nat} (hk : n ≤ k ∧ k < n + fuel)
    (h : (gridAt? low value high den closed point k).isSome) :
    gridAt? low value high den closed point (search low value high den closed point fuel n).2 =
      some (search low value high den closed point fuel n).1 := by
  induction fuel generalizing n with
  | zero => omega
  | succ fuel ih =>
    simp only [search]
    split
    · assumption
    · rename_i hnone
      refine ih ⟨?_, by omega⟩
      rcases Nat.eq_or_lt_of_le hk.1 with rfl | hlt
      · have hsome : (gridAt? low value high den closed point n).isSome := h
        rw [show gridAt? low value high den closed point n = none from hnone] at hsome
        cases hsome
      · exact hlt

/-- A bound on a grid with `n` digits. -/
lemma div_grid (point : Int) (a n : Nat) :
    ((a * tenTo ((n : Int) - point).toNat : Nat) : ℚ) /
      ((den * tenTo (-((n : Int) - point)).toNat : Nat) : ℚ) * 10 ^ (point - n) = a / den := by
  have hpow := tenTo_div_tenTo ((n : Int) - point)
  rw [Nat.cast_mul, Nat.cast_mul, mul_div_mul_comm, hpow, mul_assoc, ← zpow_add₀ (by norm_num)]
  simp

/-- What is found with `n` digits is a decimal inside the interval. -/
lemma within_of_gridAt? {n d : Nat} (hden : 0 < den)
    (h : gridAt? low value high den closed point n = some d) :
    Within closed (low / den) (high / den) (d * 10 ^ (point - n)) := by
  have hgrid := within_of_onGrid? (Nat.mul_pos hden (tenTo_pos _)) h
  have hpow := ten_zpow_pos (point - n)
  rw [← div_grid point low n, ← div_grid point high n]
  cases closed with
  | true => exact ⟨by gcongr; exact hgrid.1, by gcongr; exact hgrid.2⟩
  | false => exact ⟨by gcongr; exact hgrid.1, by gcongr; exact hgrid.2⟩

lemma gridAt?_isSome {n : Nat} (closed : Bool) (hden : 0 < den) (hlow : low ≤ value)
    (h : (value : ℚ) / den + 10 ^ (point - n) < high / den) :
    (gridAt? low value high den closed point n).isSome := by
  have hdown := Nat.mul_pos hden (tenTo_pos (-((n : Int) - point)).toNat)
  refine onGrid?_isSome closed hdown (Nat.mul_le_mul_right _ hlow) ?_
  have hdownq : (0 : ℚ) < (den * tenTo (-((n : Int) - point)).toNat : Nat) := by
    exact_mod_cast hdown
  rw [← div_grid point value n, ← div_grid point high n, ← add_one_mul,
    mul_lt_mul_iff_left₀ (ten_zpow_pos _), div_add_one hdownq.ne',
    div_lt_div_iff_of_pos_right hdownq] at h
  exact_mod_cast h

end

/-! ### The place of the point -/

/-- The place that counting comes to, from one place to the next, is not too high. -/
lemma climb_le (f : Fraction) (fuel num : Nat) (p : Int)
    (h : (f.den : ℚ) * 10 ^ (-(fuel : Int) - 1) ≤ num) :
    (f.den : ℚ) * 10 ^ (decimalPoint.climb f fuel num p - p - 1) ≤ num := by
  induction fuel generalizing num p with
  | zero => simpa [decimalPoint.climb] using h
  | succ fuel ih =>
    simp only [decimalPoint.climb]
    split
    · rename_i hden
      have hcast : (f.den : ℚ) ≤ 10 * num := by exact_mod_cast hden
      rw [sub_self, zero_sub, zpow_neg_one]
      linarith
    · have hscale : ∀ k : Int, (f.den : ℚ) * 10 ^ k ≤ ((10 * num : Nat) : ℚ) ↔
          (f.den : ℚ) * 10 ^ (k - 1) ≤ num := by
        intro k
        rw [zpow_sub_one₀ (by norm_num), Nat.cast_mul, Nat.cast_ofNat, ← mul_assoc,
          ← div_eq_mul_inv, div_le_iff₀ (by norm_num), mul_comm (num : ℚ)]
      have hnext := ih (10 * num) (p - 1) ((hscale _).mpr (by
        rw [Nat.cast_succ] at h
        convert h using 3
        ring))
      rw [hscale] at hnext
      convert hnext using 3
      ring

/-- The point stands right of the first digit at the most. -/
lemma decimalPoint_le {f : Fraction} (hden : 0 < f.den)
    (hsmall : (10 : ℚ) ^ (-(401 : Nat) : Int) ≤ f.num / f.den) :
    (10 : ℚ) ^ (decimalPoint f - 1) ≤ f.num / f.den := by
  have hdenq : (0 : ℚ) < f.den := by exact_mod_cast hden
  simp only [decimalPoint]
  split
  · rename_i hge
    have hne : f.num / f.den ≠ 0 := (Nat.div_pos hge hden).ne'
    exact (decimalLength_bounds hne).1.trans Nat.cast_div_le
  · rw [le_div_iff₀ hdenq, mul_comm] at hsmall ⊢
    simpa using climb_le f 400 f.num 0 hsmall

/-! ### Zeros at the end -/

lemma decimalLength_mul_ten {n : Nat} (hn : 0 < n) :
    decimalLength (10 * n) = decimalLength n + 1 := by
  have h := Nat.toDigits_append_toDigits (b := 10) (d := 0) (by decide) hn (by decide)
  rw [decimalLength, ← Nat.add_zero (10 * n), ← h, List.length_append]
  rfl

/-- Dropping zeros takes powers of ten away. -/
lemma dropZeros_eq {d : Nat} (hd : 0 < d) (fuel : Nat) :
    ∃ k, d = dropZeros fuel d * 10 ^ k ∧ 0 < dropZeros fuel d ∧
      decimalLength d = decimalLength (dropZeros fuel d) + k := by
  induction fuel generalizing d with
  | zero => exact ⟨0, by simp [dropZeros, hd]⟩
  | succ fuel ih =>
    simp only [dropZeros]
    split
    · rename_i hzero
      have hten : 10 * (d / 10) = d := by omega
      have hpos : 0 < d / 10 := by omega
      obtain ⟨k, hk, hdrop, hlength⟩ := ih hpos
      refine ⟨k + 1, ?_, hdrop, ?_⟩
      · rw [pow_succ, ← mul_assoc, ← hk]
        omega
      · rw [← hten, decimalLength_mul_ten hpos, hten, hlength, Nat.add_assoc]
    · exact ⟨0, by simp [hd]⟩

/-! ### Shortest digits -/

/-- The number that digits with a point stand for. -/
def Digits.value (x : Digits) : ℚ := x.digits * 10 ^ (x.point - decimalLength x.digits)

section

variable {m : Nat} {e : Int}

/-- A number of quarters of a step as it is computed with. -/
lemma quarters_eq (a : Nat) (e : Int) :
    ((a * scaleUp 1 (e - 2) : Nat) : ℚ) / scaleDown (e - 2) = a * 2 ^ (e - 2) := by
  rw [Nat.cast_mul, mul_div_assoc, scaleUp_div_scaleDown]

lemma roundsTo_of_within {x : ℚ} (hpos : m ≠ 0)
    (h : Within (decide (m % 2 = 0))
      (((4 * m - gap m e) * scaleUp 1 (e - 2) : Nat) / scaleDown (e - 2))
      (((4 * m + 2) * scaleUp 1 (e - 2) : Nat) / scaleDown (e - 2)) x) : RoundsTo x m e := by
  have hgap := gap_le_two m e
  rw [quarters_eq, quarters_eq, Nat.cast_sub (by omega)] at h
  push_cast at h
  unfold Within at h
  split at h
  · rename_i heven
    rw [decide_eq_true_eq] at heven
    exact ⟨h.1, h.2, fun hodd => by omega⟩
  · exact ⟨h.1.le, h.2.le, fun _ => h⟩

lemma quarters_two_zpow (a : ℚ) (e : Int) : 4 * a * 2 ^ (e - 2) = a * 2 ^ e := by
  rw [zpow_sub₀ (by norm_num)]
  ring

/-- A double is rounded to itself. -/
lemma roundsTo_self (m : Nat) (e : Int) : RoundsTo (m * 2 ^ e) m e := by
  have hpow := two_zpow_pos (e - 2)
  have hgap : (0 : ℚ) < gap m e := by
    unfold gap
    split <;> norm_num
  have hlow : (4 * m - gap m e : ℚ) * 2 ^ (e - 2) < m * 2 ^ e := by
    rw [← quarters_two_zpow m e]
    gcongr
    linarith
  have hhigh : (m : ℚ) * 2 ^ e < (4 * m + 2) * 2 ^ (e - 2) := by
    rw [← quarters_two_zpow m e]
    gcongr
    linarith
  exact ⟨hlow.le, hhigh.le, fun _ => ⟨hlow, hhigh⟩⟩

/-- With eighteen digits the steps of the grid are shorter than half a step of the doubles. -/
lemma value_add_step_lt (hm : IsCanonical m e) {point : Int}
    (hpoint : (10 : ℚ) ^ (point - 1) ≤ m * 2 ^ e) :
    (m : ℚ) * 2 ^ e + 10 ^ (point - (18 : Nat)) < (m + 1 / 2) * 2 ^ e := by
  have hmantissa : (m : ℚ) < 2 ^ 53 := by exact_mod_cast hm.lt
  have hstep : (10 : ℚ) ^ (point - (18 : Nat)) = 10 ^ (point - 1) / 10 ^ 17 := by
    rw [← zpow_natCast, ← zpow_sub₀ (by norm_num)]
    congr 1
    push_cast
    ring
  have hlt : (10 : ℚ) ^ (point - (18 : Nat)) < 1 / 2 * 2 ^ e := by
    rw [hstep, div_lt_iff₀ (by norm_num)]
    calc (10 : ℚ) ^ (point - 1) ≤ m * 2 ^ e := hpoint
      _ < 2 ^ 53 * 2 ^ e := by
          have hpow := two_zpow_pos e
          gcongr
      _ ≤ 1 / 2 * 2 ^ e * 10 ^ 17 := by
          have hpow := two_zpow_pos e
          nlinarith
  linarith

/-- The power of ten above a positive double. -/
def pointOf (m : Nat) (e : Int) : Int :=
  decimalPoint ⟨4 * m * scaleUp 1 (e - 2), scaleDown (e - 2)⟩

lemma pointOf_le (hm : IsCanonical m e) (hpos : m ≠ 0) :
    (10 : ℚ) ^ (pointOf m e - 1) ≤ m * 2 ^ e := by
  have hvalue : ((4 * m * scaleUp 1 (e - 2) : Nat) : ℚ) / scaleDown (e - 2) = m * 2 ^ e := by
    rw [quarters_eq, ← quarters_two_zpow m e, Nat.cast_mul, Nat.cast_ofNat]
  rw [← hvalue]
  refine decimalPoint_le (scaleDown_pos _) ?_
  calc (10 : ℚ) ^ (-(401 : Nat) : Int) ≤ 10 ^ (-(324 : Nat) : Int) :=
        zpow_le_zpow_right₀ (by norm_num) (by norm_num)
    _ ≤ m * 2 ^ e := ((roundsTo_self m e).gt hm hpos).le
    _ = _ := hvalue.symm

/-- The search for the digits of a double. -/
def searchFor (m : Nat) (e : Int) : Nat × Nat :=
  search ((4 * m - gap m e) * scaleUp 1 (e - 2)) (4 * m * scaleUp 1 (e - 2))
    ((4 * m + 2) * scaleUp 1 (e - 2)) (scaleDown (e - 2)) (m % 2 = 0) (pointOf m e) 20 1

lemma shortest_eq (m : Nat) (e : Int) :
    shortest m e =
      { digits := dropZeros 20 (searchFor m e).1
        point := pointOf m e + (decimalLength (searchFor m e).1 - (searchFor m e).2) } :=
  rfl

/-- What is found is a decimal in the interval of the double. -/
lemma searchFor_roundsTo (hm : IsCanonical m e) (hpos : m ≠ 0) :
    RoundsTo ((searchFor m e).1 * 10 ^ (pointOf m e - (searchFor m e).2)) m e := by
  have hstep := value_add_step_lt hm (pointOf_le hm hpos)
  rw [← quarters_two_zpow m e, ← quarters_two_zpow (m + 1 / 2) e] at hstep
  refine roundsTo_of_within hpos (within_of_gridAt? (scaleDown_pos _)
    (gridAt?_search (k := 18) ⟨by decide, by decide⟩ (gridAt?_isSome _ (scaleDown_pos _) ?_ ?_)))
  · exact Nat.mul_le_mul_right _ (Nat.sub_le _ _)
  · rw [quarters_eq, quarters_eq]
    push_cast
    linarith

/-- The shortest digits of a positive double are a decimal in its interval. -/
theorem shortest_roundsTo (hm : IsCanonical m e) (hpos : m ≠ 0) :
    (shortest m e).digits ≠ 0 ∧ RoundsTo (shortest m e).value m e := by
  have hrounds := searchFor_roundsTo hm hpos
  have hfound : 0 < (searchFor m e).1 := by
    refine Nat.pos_of_ne_zero fun hzero => ?_
    have hgt := hrounds.gt hm hpos
    rw [hzero, Nat.cast_zero, zero_mul] at hgt
    exact absurd hgt (not_lt.mpr (ten_zpow_pos _).le)
  obtain ⟨k, hk, hdrop, hlength⟩ := dropZeros_eq hfound 20
  have hvalue : (shortest m e).value =
      (searchFor m e).1 * 10 ^ (pointOf m e - (searchFor m e).2) := by
    have hcast : ((searchFor m e).1 : ℚ) = dropZeros 20 (searchFor m e).1 * 10 ^ (k : Int) := by
      rw [zpow_natCast]
      exact_mod_cast hk
    simp only [Digits.value, shortest_eq, hlength]
    rw [hcast, mul_assoc, ← zpow_add₀ (by norm_num)]
    congr 2
    push_cast
    ring
  exact ⟨hdrop.ne', hvalue ▸ hrounds⟩

end

end GraphTalk.Double
