import Mathlib.Algebra.Order.Field.Rat
import Mathlib.Data.List.Nodup
import Mathlib.Order.Monotone.Basic
import Mathlib.Tactic.FieldSimp
import Mathlib.Tactic.Linarith
import Mathlib.Tactic.Positivity
import Mathlib.Tactic.Ring
import GraphTalk.Utterance.Similarity

/-!
# Exact similarity

With rational numbers for scores, both measures of similarity are quotients of the numbers of stems
(`scoreOf_f1`, `scoreOf_jaccard`). A similarity is positive exactly if the texts have a stem in
common (`similarity_pos_iff`), and the harmonic mean grows strictly with the share of common stems
(`similarity_f1_eq`), so both measures put texts in the same order (`similarity_lt_iff`).
-/

namespace GraphTalk.Utterance

/-! ### Common stems -/

/-- The stems that two texts have in common. -/
def commonStems (a b : String) : List String := (stems a).filter (stems b).contains

/-- Two texts have a stem in common. -/
def SharesStem (a b : String) : Prop := ∃ w ∈ stems a, w ∈ stems b

lemma mem_commonStems {a b w : String} : w ∈ commonStems a b ↔ w ∈ stems a ∧ w ∈ stems b := by
  simp [commonStems]

lemma nodup_eraseDups (ws : List String) : ws.eraseDups.Nodup := by
  match ws with
  | [] => exact List.nodup_nil
  | w :: ws =>
    rw [List.eraseDups_cons, List.nodup_cons]
    exact ⟨by simp, nodup_eraseDups _⟩
termination_by ws.length
decreasing_by exact Nat.lt_succ_of_le (List.length_filter_le _ _)

lemma nodup_stems (s : String) : (stems s).Nodup := nodup_eraseDups _

/-- The stems of a text are those of its words that carry meaning. -/
lemma stems_of_words {s : String} (ws meaning : List String)
    (hwords : Text.words (Text.lower s) = ws)
    (hmeaning : ws.filter (fun w => !stopwords.contains w) = meaning) :
    stems s = (meaning.map fun w => stem (Text.removeAccents w)).eraseDups := by
  rw [stems, hwords, hmeaning]

lemma length_commonStems_le_left (a b : String) : (commonStems a b).length ≤ (stems a).length :=
  List.length_filter_le _ _

lemma length_commonStems_le_right (a b : String) : (commonStems a b).length ≤ (stems b).length := by
  have hnodup : (commonStems a b).Nodup := (nodup_stems a).filter _
  exact (hnodup.subperm fun w hw => (mem_commonStems.mp hw).2).length_le

lemma commonStems_pos_iff {a b : String} : 0 < (commonStems a b).length ↔ SharesStem a b := by
  simp [List.length_pos_iff_exists_mem, mem_commonStems, SharesStem]

/-! ### Scores -/

section

variable {left right overlap : ℕ}

/-- The share of common stems. -/
lemma scoreOf_jaccard (hleft : overlap ≤ left) (hright : overlap ≤ right) :
    (scoreOf .jaccard left right overlap : ℚ) = overlap / (left + right - overlap) := by
  simp only [scoreOf, Score.ofNat, Score.div]
  split
  · rename_i h
    obtain rfl : overlap = 0 := by omega
    simp
  · rw [Nat.cast_sub (by omega), Nat.cast_add]

/-- The harmonic mean of precision and recall, in closed form. -/
lemma scoreOf_f1 (hleft : overlap ≤ left) (hright : overlap ≤ right) :
    (scoreOf .f1 left right overlap : ℚ) = 2 * overlap / (left + right) := by
  simp only [scoreOf, Score.ofNat, Score.div, Score.mul, Score.add]
  split
  · rename_i h
    obtain rfl : overlap = 0 := by omega
    simp
  · split
    · rename_i h
      simp [h]
    · rename_i hpos h
      have hleft : (left : ℚ) ≠ 0 := by norm_cast; omega
      have hright : (right : ℚ) ≠ 0 := by norm_cast; omega
      have hsum : (left + right : ℚ) ≠ 0 := by norm_cast; omega
      have hoverlap : (overlap : ℚ) ≠ 0 := by norm_cast
      push_cast
      field_simp
      ring

/-- Of sets that are not empty, precision or recall is zero exactly if nothing is common, and it
makes no difference which of these is tested. -/
theorem scoreOf_f1_eq_ite (hleft : left ≠ 0) (hright : right ≠ 0) :
    (scoreOf .f1 left right overlap : ℚ) =
      if (overlap / left : ℚ) = 0 ∨ (overlap / right : ℚ) = 0 then 0
      else (2 * (overlap / left) * (overlap / right) / (overlap / left + overlap / right) : ℚ) := by
  have hzero : ((overlap / left : ℚ) = 0 ∨ (overlap / right : ℚ) = 0) ↔ overlap = 0 := by
    simp [hleft, hright]
  simp only [scoreOf, Score.ofNat, Score.div, Score.mul, Score.add, hleft, hright, or_self,
    if_false, hzero, Nat.cast_zero, Nat.cast_ofNat]

lemma scoreOf_jaccard_nonneg (hleft : overlap ≤ left) (hright : overlap ≤ right) :
    (0 : ℚ) ≤ scoreOf .jaccard left right overlap := by
  have hright' : (overlap : ℚ) ≤ right := by exact_mod_cast hright
  have hunion : (0 : ℚ) ≤ left + right - overlap := by linarith [left.cast_nonneg (α := ℚ)]
  rw [scoreOf_jaccard hleft hright]
  positivity

/-- The harmonic mean of precision and recall, by the share of common stems. -/
def harmonic (share : ℚ) : ℚ := 2 * share / (1 + share)

lemma harmonic_nonneg {share : ℚ} (h : 0 ≤ share) : 0 ≤ harmonic share := by
  rw [harmonic]
  positivity

lemma scoreOf_f1_eq (hleft : overlap ≤ left) (hright : overlap ≤ right) :
    (scoreOf .f1 left right overlap : ℚ) = harmonic (scoreOf .jaccard left right overlap) := by
  rw [scoreOf_f1 hleft hright, scoreOf_jaccard hleft hright, harmonic]
  obtain rfl | hpos := Nat.eq_zero_or_pos overlap
  · simp
  · have hright' : (overlap : ℚ) ≤ right := by exact_mod_cast hright
    have hleft' : (0 : ℚ) < left := by exact_mod_cast hpos.trans_le hleft
    have hunion : (left + right - overlap : ℚ) ≠ 0 := by linarith
    have hsum : (left + right : ℚ) ≠ 0 := by linarith [right.cast_nonneg (α := ℚ)]
    have hone : (1 + overlap / (left + right - overlap) : ℚ) =
        (left + right) / (left + right - overlap) := by
      field_simp
      ring
    rw [hone]
    field_simp

lemma scoreOf_pos_iff (mode : Mode) (hleft : overlap ≤ left) (hright : overlap ≤ right) :
    (0 : ℚ) < scoreOf mode left right overlap ↔ 0 < overlap := by
  obtain rfl | hpos := Nat.eq_zero_or_pos overlap
  · cases mode with
    | f1 => simp [scoreOf_f1 hleft hright]
    | jaccard => simp [scoreOf_jaccard hleft hright]
  · have hoverlap : (0 : ℚ) < overlap := by exact_mod_cast hpos
    have hleft' : (overlap : ℚ) ≤ left := by exact_mod_cast hleft
    have hright' : (overlap : ℚ) ≤ right := by exact_mod_cast hright
    refine iff_of_true ?_ hpos
    cases mode with
    | f1 =>
      rw [scoreOf_f1 hleft hright]
      exact div_pos (by linarith) (by linarith)
    | jaccard =>
      rw [scoreOf_jaccard hleft hright]
      exact div_pos hoverlap (by linarith)

end

lemma strictMonoOn_harmonic : StrictMonoOn harmonic (Set.Ici 0) := by
  intro x hx y hy hxy
  rw [Set.mem_Ici] at hx hy
  rw [harmonic, harmonic, div_lt_div_iff₀ (by linarith) (by linarith)]
  linarith

/-! ### Similarity -/

section

variable {a b c d : String}

lemma similarity_eq {α : Type} [Score α] (mode : Mode) (a b : String) :
    (similarity mode a b : α) =
      scoreOf mode (stems a).length (stems b).length (commonStems a b).length := rfl

lemma similarity_jaccard_nonneg (a b : String) : (0 : ℚ) ≤ similarity .jaccard a b := by
  rw [similarity_eq]
  exact scoreOf_jaccard_nonneg (length_commonStems_le_left a b) (length_commonStems_le_right a b)

/-- One measure is a function of the other. -/
theorem similarity_f1_eq (a b : String) :
    (similarity .f1 a b : ℚ) = harmonic (similarity .jaccard a b) := by
  rw [similarity_eq, similarity_eq]
  exact scoreOf_f1_eq (length_commonStems_le_left a b) (length_commonStems_le_right a b)

lemma similarity_nonneg (mode : Mode) (a b : String) : (0 : ℚ) ≤ similarity mode a b := by
  have hshare := similarity_jaccard_nonneg a b
  cases mode with
  | f1 =>
    rw [similarity_f1_eq]
    exact harmonic_nonneg hshare
  | jaccard => exact hshare

/-- Both measures put texts in the same order. -/
theorem similarity_lt_iff (mode mode' : Mode) :
    (similarity mode a b : ℚ) < similarity mode c d ↔
      (similarity mode' a b : ℚ) < similarity mode' c d := by
  have hmode : ∀ mode : Mode, (similarity mode a b : ℚ) < similarity mode c d ↔
      (similarity .jaccard a b : ℚ) < similarity .jaccard c d := by
    rintro (_ | _)
    · rw [similarity_f1_eq, similarity_f1_eq]
      exact strictMonoOn_harmonic.lt_iff_lt (similarity_jaccard_nonneg a b)
        (similarity_jaccard_nonneg c d)
    · rfl
  rw [hmode mode, hmode mode']

theorem similarity_le_iff (mode mode' : Mode) :
    (similarity mode a b : ℚ) ≤ similarity mode c d ↔
      (similarity mode' a b : ℚ) ≤ similarity mode' c d := by
  rw [← not_lt, ← not_lt, similarity_lt_iff mode mode']

/-- A similarity is positive exactly if the texts have a stem in common. -/
theorem similarity_pos_iff (mode : Mode) : (0 : ℚ) < similarity mode a b ↔ SharesStem a b := by
  rw [similarity_eq, ← commonStems_pos_iff]
  exact scoreOf_pos_iff mode (length_commonStems_le_left a b) (length_commonStems_le_right a b)

end

end GraphTalk.Utterance
