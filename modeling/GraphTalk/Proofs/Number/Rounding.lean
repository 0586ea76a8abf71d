import Mathlib.Algebra.Order.Field.Power
import Mathlib.Algebra.Order.Field.Rat
import Mathlib.Tactic.FieldSimp
import Mathlib.Tactic.GCongr
import Mathlib.Tactic.Linarith
import Mathlib.Tactic.NormNum
import Mathlib.Tactic.Positivity
import Mathlib.Tactic.Ring
import GraphTalk.Number.Double

/-!
# Rounding to doubles

The rationals around a double that are nearer to it than to any other one form an interval, with its
ends if the mantissa is even (`RoundsTo`). A quotient in that interval is rounded to the double
(`ofRatio_eq`), and so is a decimal (`ofDecimal_eq`).
-/

namespace GraphTalk.Double

/-! ### Powers of two -/

lemma scaleDown_pos (e : Int) : 0 < scaleDown e := Nat.pow_pos (by decide)

lemma scaleUp_one_pos (e : Int) : 0 < scaleUp 1 e := by
  simp only [scaleUp, one_mul]
  exact Nat.pow_pos (by decide)

/-- A power of two is the quotient of its two factors. -/
lemma scaleUp_div_scaleDown (e : Int) : (scaleUp 1 e : ℚ) / scaleDown e = 2 ^ e := by
  simp only [scaleUp, scaleDown, twoTo, one_mul, Nat.pow_eq, Nat.cast_pow, Nat.cast_ofNat]
  rcases Int.eq_nat_or_neg e with ⟨n, rfl | rfl⟩
  · simp
  · simp

/-- A fraction is scaled by a power of two. -/
lemma scaled_div (num den : Nat) (e : Int) :
    ((num * scaleDown e : Nat) : ℚ) / (den * scaleUp 1 e : Nat) = num / den / 2 ^ e := by
  have hdown : (scaleDown e : ℚ) ≠ 0 := by exact_mod_cast (scaleDown_pos e).ne'
  have hup : (scaleUp 1 e : ℚ) ≠ 0 := by exact_mod_cast (scaleUp_one_pos e).ne'
  rw [← scaleUp_div_scaleDown]
  push_cast
  rcases eq_or_ne (den : ℚ) 0 with hden | hden
  · simp [hden]
  · field_simp

/-! ### Rounding to whole numbers -/

/-- A quotient is rounded to a whole number that is at most a half away; from an odd one it has to
be less. -/
lemma roundQuotient_eq_of_le {num den m : Nat} (hden : 0 < den)
    (hlow : 2 * (m * den) ≤ 2 * num + den) (hhigh : 2 * num ≤ 2 * (m * den) + den)
    (hodd : m % 2 = 1 → 2 * (m * den) < 2 * num + den ∧ 2 * num < 2 * (m * den) + den) :
    roundQuotient num den = m := by
  have hdivmod : num / den * den + num % den = num := Nat.div_add_mod' num den
  have hmod : num % den < den := Nat.mod_lt num hden
  simp only [roundQuotient]
  generalize num / den = q at hdivmod ⊢
  generalize num % den = r at hdivmod hmod ⊢
  have hqm : q ≤ m := by
    by_contra! h
    have hmul : (m + 1) * den ≤ q * den := Nat.mul_le_mul_right den h
    rw [Nat.add_mul] at hmul
    omega
  have hmq : m ≤ q + 1 := by
    by_contra! h
    have hmul : (q + 2) * den ≤ m * den := Nat.mul_le_mul_right den h
    rw [Nat.add_mul] at hmul
    omega
  obtain rfl | rfl : m = q ∨ m = q + 1 := by omega
  · split
    · rfl
    · split
      · omega
      · split
        · rfl
        · have hstrict := hodd (by omega)
          omega
  · rw [Nat.add_mul] at hlow hhigh hodd
    split
    · omega
    · split
      · rfl
      · split
        · have hstrict := hodd (by omega)
          omega
        · rfl

lemma roundQuotient_eq {num den m : Nat} (hden : 0 < den) (hlow : (m : ℚ) - 1 / 2 ≤ num / den)
    (hhigh : (num : ℚ) / den ≤ m + 1 / 2)
    (hodd : m % 2 = 1 → (m : ℚ) - 1 / 2 < num / den ∧ (num : ℚ) / den < m + 1 / 2) :
    roundQuotient num den = m := by
  have hdenq : (0 : ℚ) < den := by exact_mod_cast hden
  rw [le_div_iff₀ hdenq] at hlow
  rw [div_le_iff₀ hdenq] at hhigh
  rw [lt_div_iff₀ hdenq, div_lt_iff₀ hdenq] at hodd
  refine roundQuotient_eq_of_le hden ?_ ?_ fun hm => ?_
  · exact_mod_cast (by linarith : (2 * (m * den) : ℚ) ≤ 2 * num + den)
  · exact_mod_cast (by linarith : (2 * num : ℚ) ≤ 2 * (m * den) + den)
  · obtain ⟨hl, hh⟩ := hodd hm
    constructor
    · exact_mod_cast (by linarith : (2 * (m * den) : ℚ) < 2 * num + den)
    · exact_mod_cast (by linarith : (2 * num : ℚ) < 2 * (m * den) + den)

/-! ### The place of the first bit -/

lemma log2_bounds {n : Nat} (hn : n ≠ 0) :
    (2 : ℚ) ^ (Nat.log2 n : Int) ≤ n ∧ (n : ℚ) < 2 ^ ((Nat.log2 n : Int) + 1) := by
  constructor
  · rw [zpow_natCast]
    exact_mod_cast Nat.log2_self_le hn
  · have hlt : n < 2 ^ (Nat.log2 n + 1) := Nat.lt_log2_self
    rw [← Nat.cast_succ, zpow_natCast]
    exact_mod_cast hlt

/-- A power of two is at most a fraction if its two factors say so. -/
lemma scaled_le_iff {num den : Nat} (hden : den ≠ 0) (k : Int) :
    den * scaleUp 1 k ≤ num * scaleDown k ↔ (2 : ℚ) ^ k ≤ num / den := by
  have hdenq : (0 : ℚ) < den := by exact_mod_cast Nat.pos_of_ne_zero hden
  have hdown : (0 : ℚ) < scaleDown k := by exact_mod_cast scaleDown_pos k
  rw [← scaleUp_div_scaleDown, div_le_div_iff₀ hdown hdenq, mul_comm (scaleUp 1 k : ℚ)]
  exact_mod_cast Iff.rfl

/-- The exponent is that of the first bit. -/
lemma binaryExponent_bounds {num den : Nat} (hnum : num ≠ 0) (hden : den ≠ 0) :
    (2 : ℚ) ^ binaryExponent num den ≤ num / den ∧
      (num : ℚ) / den < 2 ^ (binaryExponent num den + 1) := by
  obtain ⟨hnum₁, hnum₂⟩ := log2_bounds hnum
  obtain ⟨hden₁, hden₂⟩ := log2_bounds hden
  have hdenq : (0 : ℚ) < den := by exact_mod_cast Nat.pos_of_ne_zero hden
  have hlow : (2 : ℚ) ^ ((Nat.log2 num : Int) - Nat.log2 den - 1) ≤ num / den := by
    rw [le_div_iff₀ hdenq]
    calc (2 : ℚ) ^ ((Nat.log2 num : Int) - Nat.log2 den - 1) * den
        ≤ 2 ^ ((Nat.log2 num : Int) - Nat.log2 den - 1) * 2 ^ ((Nat.log2 den : Int) + 1) := by
          gcongr
      _ = 2 ^ (Nat.log2 num : Int) := by
          rw [← zpow_add₀ (by norm_num)]
          congr 1
          ring
      _ ≤ num := hnum₁
  have hhigh : (num : ℚ) / den < 2 ^ ((Nat.log2 num : Int) - Nat.log2 den + 1) := by
    rw [div_lt_iff₀ hdenq]
    calc (num : ℚ) < 2 ^ ((Nat.log2 num : Int) + 1) := hnum₂
      _ = 2 ^ ((Nat.log2 num : Int) - Nat.log2 den + 1) * 2 ^ (Nat.log2 den : Int) := by
          rw [← zpow_add₀ (by norm_num)]
          congr 1
          ring
      _ ≤ 2 ^ ((Nat.log2 num : Int) - Nat.log2 den + 1) * den := by gcongr
  simp only [binaryExponent, scaled_le_iff hden]
  split
  · rename_i hle
    exact ⟨hle, hhigh⟩
  · rename_i hlt
    refine ⟨hlow, ?_⟩
    rw [sub_add_cancel]
    exact not_le.mp hlt

/-! ### Doubles -/

/-- A mantissa and an exponent of a double: the mantissa has 53 bits, or fewer with the smallest
exponent. -/
structure IsCanonical (m : Nat) (e : Int) : Prop where
  lt : m < 2 ^ 53
  least_le : leastExponent ≤ e
  le_greatest : e ≤ greatestExponent
  normal : e = leastExponent ∨ 2 ^ 52 ≤ m

/-- A double that is kept in the one form that rounding gives it. -/
def IsProper : Double → Prop
  | .finite _ m e => IsCanonical m e
  | _ => True

/-- How far the interval of a double reaches down, in quarters of a step: the double below a power
of two is only half a step away. -/
def gap (m : Nat) (e : Int) : Nat := if m = twoTo 52 ∧ e > leastExponent then 1 else 2

/-- A rational is nearer to a double than to any other one, or halfway and the double is even. -/
structure RoundsTo (x : ℚ) (m : Nat) (e : Int) : Prop where
  low : (4 * m - gap m e : ℚ) * 2 ^ (e - 2) ≤ x
  high : x ≤ (4 * m + 2 : ℚ) * 2 ^ (e - 2)
  inside : m % 2 = 1 → (4 * m - gap m e : ℚ) * 2 ^ (e - 2) < x ∧ x < (4 * m + 2 : ℚ) * 2 ^ (e - 2)

lemma gap_le_two (m : Nat) (e : Int) : gap m e ≤ 2 := by
  unfold gap
  split <;> decide

section

variable {x : ℚ} {m : Nat} {e : Int}

lemma two_zpow_pos (e : Int) : (0 : ℚ) < 2 ^ e := zpow_pos (by norm_num) e

/-- The interval of a double in steps. -/
lemma RoundsTo.scaled (h : RoundsTo x m e) :
    (m : ℚ) - gap m e / 4 ≤ x / 2 ^ e ∧ x / 2 ^ e ≤ m + 1 / 2 ∧
      (m % 2 = 1 → (m : ℚ) - gap m e / 4 < x / 2 ^ e ∧ x / 2 ^ e < m + 1 / 2) := by
  have hpow := two_zpow_pos e
  have hquarter : (2 : ℚ) ^ (e - 2) = 2 ^ e / 4 := by
    rw [zpow_sub₀ (by norm_num)]
    norm_num
  obtain ⟨hlow, hhigh, hinside⟩ := h
  rw [hquarter] at hlow hhigh hinside
  rw [le_div_iff₀ hpow, div_le_iff₀ hpow, lt_div_iff₀ hpow, div_lt_iff₀ hpow]
  refine ⟨by linarith, by linarith, fun hm => ?_⟩
  obtain ⟨hlow, hhigh⟩ := hinside hm
  constructor <;> linarith

/-- What is rounded to a double is rounded to its mantissa in steps of its exponent. -/
lemma RoundsTo.roundQuotient {num den : Nat} (hden : 0 < den) (h : RoundsTo (num / den) m e) :
    roundQuotient (num * scaleDown e) (den * scaleUp 1 e) = m := by
  obtain ⟨hlow, hhigh, hinside⟩ := h.scaled
  have hgap : (gap m e : ℚ) ≤ 2 := by exact_mod_cast gap_le_two m e
  refine roundQuotient_eq (Nat.mul_pos hden (scaleUp_one_pos e)) ?_ ?_ fun hm => ?_
  · rw [scaled_div]
    linarith
  · rw [scaled_div]
    exact hhigh
  · rw [scaled_div]
    obtain ⟨hlow, hhigh⟩ := hinside hm
    exact ⟨by linarith, hhigh⟩

/-- The first bit of what is rounded to a double is no further left than that of the double. -/
lemma RoundsTo.binaryExponent_le {num den : Nat} (hnum : num ≠ 0) (hden : den ≠ 0)
    (hm : IsCanonical m e) (h : RoundsTo (num / den) m e) : binaryExponent num den - 52 ≤ e := by
  obtain ⟨-, hhigh, -⟩ := h.scaled
  have hlt : (m : ℚ) + 1 ≤ 2 ^ 53 := by exact_mod_cast hm.lt
  have hx : (num : ℚ) / den < 2 ^ (e + 53) := by
    rw [zpow_add₀ (by norm_num), mul_comm, ← div_lt_iff₀ (two_zpow_pos e)]
    norm_num at hlt ⊢
    linarith
  have hk := (binaryExponent_bounds hnum hden).1.trans_lt hx
  rw [zpow_lt_zpow_iff_right₀ (by norm_num)] at hk
  omega

lemma ofRatio_of_round {negative : Bool} {num den : Nat} (hnum : num ≠ 0)
    (he : max (binaryExponent num den - 52) leastExponent = e)
    (hm : roundQuotient (num * scaleDown e) (den * scaleUp 1 e) = m) :
    ofRatio negative num den =
      if m = twoTo 53 then
        if e + 1 > greatestExponent then .infinity negative
        else .finite negative (twoTo 52) (e + 1)
      else if e > greatestExponent then .infinity negative else .finite negative m e := by
  simp only [ofRatio, hnum, if_false, he, hm]
  split <;> rfl

/-- A quotient in the interval of a double is rounded to it. -/
theorem ofRatio_eq {negative : Bool} {num den : Nat} (hnum : num ≠ 0) (hden : den ≠ 0)
    (hm : IsCanonical m e) (h : RoundsTo (num / den) m e) :
    ofRatio negative num den = .finite negative m e := by
  have hle := h.binaryExponent_le hnum hden hm
  obtain ⟨hk₁, hk₂⟩ := binaryExponent_bounds hnum hden
  have hround := h.roundQuotient (Nat.pos_of_ne_zero hden)
  have hcarry : m ≠ twoTo 53 := hm.lt.ne
  have hgreatest : ¬ e > greatestExponent := not_lt.mpr hm.le_greatest
  by_cases hexponent : max (binaryExponent num den - 52) leastExponent = e
  · rw [ofRatio_of_round hnum hexponent hround, if_neg hcarry, if_neg hgreatest]
  · -- the quotient is just below a power of two, where the steps are half as wide
    have hleast := hm.least_le
    have hlt : leastExponent < e := by omega
    have hnormal : 2 ^ 52 ≤ m := hm.normal.resolve_left hlt.ne'
    obtain ⟨hlow, -, -⟩ := h.scaled
    have hbelow : (num : ℚ) / den / 2 ^ e < 2 ^ 52 := by
      rw [div_lt_iff₀ (two_zpow_pos e)]
      calc (num : ℚ) / den < 2 ^ (binaryExponent num den + 1) := hk₂
        _ ≤ 2 ^ (52 + e) := zpow_le_zpow_right₀ (by norm_num) (by omega)
        _ = 2 ^ 52 * 2 ^ e := by
            rw [zpow_add₀ (by norm_num)]
            norm_num
    obtain rfl : m = twoTo 52 := by
      by_contra hne
      have hgap : (gap m e : ℚ) ≤ 2 := by exact_mod_cast gap_le_two m e
      have hmore : (2 : ℚ) ^ 52 + 1 ≤ m := by
        exact_mod_cast Nat.succ_le_of_lt (lt_of_le_of_ne hnormal (Ne.symm hne))
      linarith
    have hgap : gap (twoTo 52) e = 1 := if_pos ⟨rfl, hlt⟩
    have hpow : ((twoTo 52 : Nat) : ℚ) = 2 ^ 52 := by norm_num [twoTo]
    rw [hgap, hpow, Nat.cast_one] at hlow
    have habove : (2 : ℚ) ^ (51 + e) ≤ num / den := by
      rw [zpow_add₀ (by norm_num), ← le_div_iff₀ (two_zpow_pos e)]
      norm_num at hlow ⊢
      linarith
    have hk : 51 + e < binaryExponent num den + 1 :=
      (zpow_lt_zpow_iff_right₀ (by norm_num)).mp (habove.trans_lt hk₂)
    have hexponent' : max (binaryExponent num den - 52) leastExponent = e - 1 := by omega
    have hhalf : (num : ℚ) / den / 2 ^ (e - 1) = 2 * (num / den / 2 ^ e) := by
      rw [zpow_sub_one₀ (by norm_num)]
      field_simp
    have hround' : Double.roundQuotient (num * scaleDown (e - 1)) (den * scaleUp 1 (e - 1)) =
        twoTo 53 := by
      have hpow : ((twoTo 53 : Nat) : ℚ) = 2 * 2 ^ 52 := by norm_num [twoTo]
      refine roundQuotient_eq (Nat.mul_pos (Nat.pos_of_ne_zero hden) (scaleUp_one_pos _)) ?_ ?_ ?_
      · rw [scaled_div, hhalf, hpow]
        linarith
      · rw [scaled_div, hhalf, hpow]
        linarith
      · exact fun hodd => absurd hodd (by decide)
    rw [ofRatio_of_round hnum hexponent' hround', if_pos rfl, sub_add_cancel, if_neg hgreatest]

/-! ### Decimals -/

lemma tenTo_pos (k : Nat) : 0 < tenTo k := Nat.pow_pos (by decide)

lemma ten_zpow_pos (k : Int) : (0 : ℚ) < 10 ^ k := zpow_pos (by norm_num) k

/-- A power of ten is the quotient of its two factors. -/
lemma tenTo_div_tenTo (k : Int) : (tenTo k.toNat : ℚ) / tenTo (-k).toNat = 10 ^ k := by
  simp only [tenTo, Nat.pow_eq, Nat.cast_pow, Nat.cast_ofNat]
  rcases Int.eq_nat_or_neg k with ⟨n, rfl | rfl⟩
  · simp
  · simp

lemma decimalLength_bounds {n : Nat} (hn : n ≠ 0) :
    (10 : ℚ) ^ ((decimalLength n : Int) - 1) ≤ n ∧ (n : ℚ) < 10 ^ (decimalLength n : Int) := by
  have hpos : 0 < decimalLength n := Nat.length_toDigits_pos
  constructor
  · have hle : 10 ^ (decimalLength n - 1) ≤ n := by
      rcases Nat.eq_zero_or_pos (decimalLength n - 1) with hzero | hmore
      · rw [hzero]
        exact Nat.pos_of_ne_zero hn
      · by_contra! hlt
        have := (Nat.length_toDigits_le_iff (by decide) hmore).mpr hlt
        simp only [decimalLength] at this hpos
        omega
    rw [← Nat.cast_pred hpos, zpow_natCast]
    exact_mod_cast hle
  · rw [zpow_natCast]
    exact_mod_cast (Nat.length_toDigits_le_iff (by decide) hpos).mp le_rfl

-- stated of variables, since the powers that it is used for are too large to be written out
lemma two_zpow_lt_ten_zpow {a b : Nat} (h : 2 ^ a < 10 ^ b) :
    (2 : ℚ) ^ (a : Int) < 10 ^ (b : Int) := by
  rw [zpow_natCast, zpow_natCast]
  exact_mod_cast h

/-- No double reaches ten to the 309th. -/
lemma RoundsTo.lt (hm : IsCanonical m e) (h : RoundsTo x m e) : x < 10 ^ ((309 : Nat) : Int) := by
  obtain ⟨-, hhigh, -⟩ := h.scaled
  rw [div_le_iff₀ (two_zpow_pos e)] at hhigh
  have hmantissa : (m : ℚ) + 1 ≤ 2 ^ 53 := by exact_mod_cast hm.lt
  calc x ≤ (m + 1 / 2) * 2 ^ e := hhigh
    _ ≤ 2 ^ 53 * 2 ^ greatestExponent := by
        have hexponent := hm.le_greatest
        gcongr
        · linarith
        · norm_num
    _ = 2 ^ ((1024 : Nat) : Int) := by
        rw [← zpow_natCast, ← zpow_add₀ (by norm_num)]
        rfl
    _ < 10 ^ ((309 : Nat) : Int) := two_zpow_lt_ten_zpow (by decide +kernel)

/-- What is rounded to a positive double is beyond ten to the -324th. -/
lemma RoundsTo.gt (hm : IsCanonical m e) (hpos : m ≠ 0) (h : RoundsTo x m e) :
    (10 : ℚ) ^ (-(324 : Nat) : Int) < x := by
  obtain ⟨hlow, -, -⟩ := h.scaled
  rw [le_div_iff₀ (two_zpow_pos e)] at hlow
  have hmantissa : (1 : ℚ) ≤ m := by exact_mod_cast Nat.pos_of_ne_zero hpos
  have hgap : (gap m e : ℚ) ≤ 2 := by exact_mod_cast gap_le_two m e
  have hhalf : (1 : ℚ) / 2 ≤ m - gap m e / 4 := by linarith
  calc (10 : ℚ) ^ (-(324 : Nat) : Int) < 2 ^ (-(1075 : Nat) : Int) := by
        rw [zpow_neg, zpow_neg]
        exact inv_strictAnti₀ (two_zpow_pos _) (two_zpow_lt_ten_zpow (by decide +kernel))
    _ = 1 / 2 * 2 ^ leastExponent := by
        rw [one_div, ← zpow_neg_one, ← zpow_add₀ (by norm_num)]
        rfl
    _ ≤ (m - gap m e / 4) * 2 ^ e := by
        have hexponent := hm.least_le
        gcongr
        norm_num
    _ ≤ x := hlow

/-- A decimal in the interval of a double is rounded to it. -/
theorem ofDecimal_eq {negative : Bool} {digits : Nat} {exponent : Int} (hm : IsCanonical m e)
    (hpos : m ≠ 0) (h : RoundsTo (digits * 10 ^ exponent) m e) :
    ofDecimal negative digits exponent = .finite negative m e := by
  have hgt := h.gt hm hpos
  have hlt := h.lt hm
  have hdigits : digits ≠ 0 := by
    rintro rfl
    rw [Nat.cast_zero, zero_mul] at hgt
    exact absurd hgt (not_lt.mpr (ten_zpow_pos _).le)
  obtain ⟨hlength₁, hlength₂⟩ := decimalLength_bounds hdigits
  have htop : ¬ exponent + decimalLength digits > 310 := by
    have hpow : (10 : ℚ) ^ ((decimalLength digits : Int) - 1 + exponent) <
        10 ^ ((309 : Nat) : Int) := by
      rw [zpow_add₀ (by norm_num)]
      exact lt_of_le_of_lt (by gcongr) hlt
    rw [zpow_lt_zpow_iff_right₀ (by norm_num)] at hpow
    omega
  have hbottom : ¬ exponent + decimalLength digits < -330 := by
    have hpow : (10 : ℚ) ^ (-(324 : Nat) : Int) <
        10 ^ ((decimalLength digits : Int) + exponent) := by
      rw [zpow_add₀ (by norm_num)]
      exact hgt.trans (by gcongr)
    rw [zpow_lt_zpow_iff_right₀ (by norm_num)] at hpow
    omega
  have hratio : ((digits * tenTo exponent.toNat : Nat) : ℚ) / (tenTo (-exponent).toNat : Nat) =
      digits * 10 ^ exponent := by
    rw [← tenTo_div_tenTo, Nat.cast_mul, mul_div_assoc]
  simp only [ofDecimal, hdigits, htop, hbottom, if_false]
  refine ofRatio_eq ?_ (tenTo_pos _).ne' hm (hratio ▸ h)
  exact Nat.mul_ne_zero hdigits (tenTo_pos _).ne'

end

/-! ### What rounding gives -/

lemma roundQuotient_bounds (num den : Nat) :
    num / den ≤ roundQuotient num den ∧ roundQuotient num den ≤ num / den + 1 := by
  simp only [roundQuotient]
  split
  · omega
  · split
    · omega
    · split <;> omega

/-- The mantissa that a quotient is rounded to has at most one bit too many, and it has enough bits
unless the exponent is the smallest. -/
lemma roundQuotient_mantissa {num den : Nat} (hnum : num ≠ 0) (hden : den ≠ 0) {e : Int}
    (he : max (binaryExponent num den - 52) leastExponent = e) :
    Double.roundQuotient (num * scaleDown e) (den * scaleUp 1 e) ≤ 2 ^ 53 ∧
      (e = leastExponent ∨
        2 ^ 52 ≤ Double.roundQuotient (num * scaleDown e) (den * scaleUp 1 e)) := by
  obtain ⟨hk₁, hk₂⟩ := binaryExponent_bounds hnum hden
  obtain ⟨hround₁, hround₂⟩ := roundQuotient_bounds (num * scaleDown e) (den * scaleUp 1 e)
  have hpos : 0 < den * scaleUp 1 e := Nat.mul_pos (Nat.pos_of_ne_zero hden) (scaleUp_one_pos e)
  have hposq : (0 : ℚ) < (den * scaleUp 1 e : Nat) := by exact_mod_cast hpos
  have hscaled := scaled_div num den e
  constructor
  · have hbelow : (num : ℚ) / den / 2 ^ e < 2 ^ 53 := by
      rw [div_lt_iff₀ (two_zpow_pos e), ← zpow_natCast, ← zpow_add₀ (by norm_num)]
      exact hk₂.trans_le (zpow_le_zpow_right₀ (by norm_num) (by push_cast; omega))
    have hlt : num * scaleDown e / (den * scaleUp 1 e) < 2 ^ 53 := by
      rw [Nat.div_lt_iff_lt_mul hpos]
      rw [← hscaled, div_lt_iff₀ hposq] at hbelow
      exact_mod_cast hbelow
    omega
  · refine or_iff_not_imp_left.mpr fun hleast => ?_
    have hexponent : binaryExponent num den = 52 + e := by omega
    have habove : (2 : ℚ) ^ 52 ≤ num / den / 2 ^ e := by
      rw [le_div_iff₀ (two_zpow_pos e), ← zpow_natCast, ← zpow_add₀ (by norm_num)]
      exact hexponent ▸ hk₁
    have hge : 2 ^ 52 ≤ num * scaleDown e / (den * scaleUp 1 e) := by
      rw [Nat.le_div_iff_mul_le hpos]
      rw [← hscaled, le_div_iff₀ hposq] at habove
      exact_mod_cast habove
    omega

lemma isProper_zero (negative : Bool) : (zero negative).IsProper :=
  ⟨by decide, by decide, by decide, .inl rfl⟩

lemma isProper_ofRatio (negative : Bool) (num : Nat) {den : Nat} (hden : den ≠ 0) :
    (ofRatio negative num den).IsProper := by
  by_cases hnum : num = 0
  · simp only [ofRatio, hnum, if_true]
    exact isProper_zero negative
  · obtain ⟨e, he⟩ : ∃ e, max (binaryExponent num den - 52) leastExponent = e := ⟨_, rfl⟩
    obtain ⟨hle, hnormal⟩ := roundQuotient_mantissa hnum hden he
    have hleast : leastExponent ≤ e := he ▸ le_max_right _ _
    rw [ofRatio_of_round hnum he rfl]
    split
    · split
      · trivial
      · exact ⟨by decide, by omega, by omega, .inr (Nat.le_refl _)⟩
    · rename_i hcarry
      split
      · trivial
      · exact ⟨lt_of_le_of_ne hle hcarry, hleast, by omega, hnormal⟩

lemma isProper_ofDecimal (negative : Bool) (digits : Nat) (exponent : Int) :
    (ofDecimal negative digits exponent).IsProper := by
  simp only [ofDecimal]
  split
  · exact isProper_zero negative
  · split
    · trivial
    · split
      · exact isProper_zero negative
      · exact isProper_ofRatio _ _ (tenTo_pos _).ne'

end GraphTalk.Double
