import Mathlib.Data.Finset.Card
import Mathlib.Data.Finset.Lattice.Basic
import GraphTalk.Proofs.Utterance.Similarity

/-!
# Similarity as overlap

The similarity of two texts measures how far their sets of stems overlap, whatever the stemmer is:
it lies between zero, which stands for disjoint sets, and one, which stands for equal sets that are
not empty (`similarity_measures_overlap`). The harmonic mean grows with the share of common stems
and agrees with it at both ends, so what holds of the share is carried over to it.
-/

namespace GraphTalk.Utterance

/-! ### Bounds of scores -/

section

variable {share : ℚ}

lemma le_harmonic (hnonneg : 0 ≤ share) (hle : share ≤ 1) : share ≤ harmonic share := by
  rw [harmonic, le_div_iff₀ (by linarith)]
  have hsquare : share * share ≤ share := mul_le_of_le_one_right hnonneg hle
  linarith

lemma harmonic_one : harmonic 1 = 1 := by norm_num [harmonic]

lemma harmonic_le_one (hnonneg : 0 ≤ share) (hle : share ≤ 1) : harmonic share ≤ 1 := by
  rw [← harmonic_one]
  exact strictMonoOn_harmonic.monotoneOn hnonneg (Set.mem_Ici.mpr zero_le_one) hle

lemma harmonic_eq_one_iff (hnonneg : 0 ≤ share) : harmonic share = 1 ↔ share = 1 := by
  rw [← strictMonoOn_harmonic.injOn.eq_iff hnonneg (Set.mem_Ici.mpr zero_le_one), harmonic_one]

end

section

variable {left right overlap : ℕ}

lemma scoreOf_comm (mode : Mode) (hleft : overlap ≤ left) (hright : overlap ≤ right) :
    (scoreOf mode left right overlap : ℚ) = scoreOf mode right left overlap := by
  cases mode with
  | f1 => rw [scoreOf_f1 hleft hright, scoreOf_f1 hright hleft, add_comm]
  | jaccard => rw [scoreOf_jaccard hleft hright, scoreOf_jaccard hright hleft, add_comm]

lemma scoreOf_jaccard_le_one (hleft : overlap ≤ left) (hright : overlap ≤ right) :
    (scoreOf .jaccard left right overlap : ℚ) ≤ 1 := by
  have hleft' : (overlap : ℚ) ≤ left := by exact_mod_cast hleft
  have hright' : (overlap : ℚ) ≤ right := by exact_mod_cast hright
  have hpos : (0 : ℚ) ≤ overlap := overlap.cast_nonneg
  rw [scoreOf_jaccard hleft hright]
  exact div_le_one_of_le₀ (by linarith) (by linarith)

/-- All stems are common ones exactly if their share is one. -/
lemma scoreOf_jaccard_eq_one_iff (hleft : overlap ≤ left) (hright : overlap ≤ right) :
    (scoreOf .jaccard left right overlap : ℚ) = 1 ↔
      left = overlap ∧ right = overlap ∧ 0 < overlap := by
  rw [scoreOf_jaccard hleft hright]
  by_cases hunion : (left + right - overlap : ℚ) = 0
  · -- without any stem there is no share
    have hnone : left + right = overlap := by
      have hsum : (left + right : ℚ) = overlap := by linarith
      exact_mod_cast hsum
    rw [hunion, div_zero]
    exact iff_of_false zero_ne_one (by omega)
  · rw [div_eq_one_iff_eq hunion, eq_sub_iff_add_eq]
    constructor
    · intro h
      have htwice : overlap + overlap = left + right := by exact_mod_cast h
      have hpos : overlap ≠ 0 := by
        rintro rfl
        obtain ⟨rfl, rfl⟩ : left = 0 ∧ right = 0 := by omega
        simp at hunion
      omega
    · rintro ⟨rfl, rfl, -⟩
      rfl

variable (mode : Mode) (hleft : overlap ≤ left) (hright : overlap ≤ right)

include hleft hright

lemma scoreOf_nonneg : (0 : ℚ) ≤ scoreOf mode left right overlap := by
  cases mode with
  | f1 =>
    rw [scoreOf_f1 hleft hright]
    positivity
  | jaccard => exact scoreOf_jaccard_nonneg hleft hright

lemma scoreOf_le_one : (scoreOf mode left right overlap : ℚ) ≤ 1 := by
  cases mode with
  | f1 =>
    rw [scoreOf_f1_eq hleft hright]
    exact harmonic_le_one (scoreOf_jaccard_nonneg hleft hright)
      (scoreOf_jaccard_le_one hleft hright)
  | jaccard => exact scoreOf_jaccard_le_one hleft hright

lemma scoreOf_eq_one_iff :
    (scoreOf mode left right overlap : ℚ) = 1 ↔
      left = overlap ∧ right = overlap ∧ 0 < overlap := by
  rw [← scoreOf_jaccard_eq_one_iff hleft hright]
  cases mode with
  | f1 =>
    rw [scoreOf_f1_eq hleft hright]
    exact harmonic_eq_one_iff (scoreOf_jaccard_nonneg hleft hright)
  | jaccard => rfl

omit mode in
lemma scoreOf_jaccard_le_f1 :
    (scoreOf .jaccard left right overlap : ℚ) ≤ scoreOf .f1 left right overlap := by
  rw [scoreOf_f1_eq hleft hright]
  exact le_harmonic (scoreOf_jaccard_nonneg hleft hright) (scoreOf_jaccard_le_one hleft hright)

end

/-! ### Checked divisions -/

/-- Scores whose divisions are checked. -/
inductive Checked where
  /-- A number. -/
  | value (score : ℚ)
  /-- The result of a division by zero, and of all that is computed from one. -/
  | undefined

namespace Checked

/-- An operation on numbers that are defined. -/
def lift (op : ℚ → ℚ → Checked) : Checked → Checked → Checked
  | .value x, .value y => op x y
  | _, _ => .undefined

/-- A quotient, if the divisor is not zero. -/
def quotient (x y : ℚ) : Checked := if y = 0 then .undefined else .value (x / y)

/-- A comparison of numbers that are defined. -/
def compare (test : ℚ → ℚ → Bool) : Checked → Checked → Bool
  | .value x, .value y => test x y
  | _, _ => false

instance : Score Checked where
  ofNat n := .value n
  add := lift fun x y => .value (x + y)
  mul := lift fun x y => .value (x * y)
  div := lift quotient
  le := compare fun x y => x ≤ y
  lt := compare fun x y => x < y

end Checked

/-- No score divides by zero. -/
lemma scoreOf_checked (mode : Mode) {left right overlap : ℕ} (hleft : overlap ≤ left)
    (hright : overlap ≤ right) :
    (scoreOf mode left right overlap : Checked) = .value (scoreOf mode left right overlap) := by
  by_cases hempty : left = 0 ∨ right = 0
  · simp only [scoreOf, if_pos hempty]
    rfl
  · cases mode with
    | jaccard =>
      have hunion : ((left + right - overlap : ℕ) : ℚ) ≠ 0 := by
        rw [Nat.cast_ne_zero]
        omega
      simp only [scoreOf, if_neg hempty]
      exact if_neg hunion
    | f1 =>
      by_cases hzero : overlap = 0
      · simp only [scoreOf, if_neg hempty, if_pos hzero]
        rfl
      · have hshare : ∀ size : ℕ, overlap ≤ size → (0 : ℚ) < overlap / size := fun size hsize =>
          div_pos (by exact_mod_cast Nat.pos_of_ne_zero hzero) (by norm_cast; omega)
        have hquotient : ∀ size : ℕ, overlap ≤ size →
            Checked.quotient overlap size = .value (overlap / size) := fun size hsize =>
          if_neg (by norm_cast; omega)
        have hsum : (overlap / left + overlap / right : ℚ) ≠ 0 :=
          (add_pos (hshare left hleft) (hshare right hright)).ne'
        simp only [scoreOf, if_neg hempty, if_neg hzero, Score.ofNat, Score.div, Score.mul,
          Score.add, Checked.lift, hquotient left hleft, hquotient right hright]
        exact if_neg hsum

/-! ### Sets of stems -/

/-- The set of the stems that a stemmer gives to the words of a text that carry meaning. -/
def stemSet (stemmer : String → String) (s : String) : Finset String :=
  ((Text.words (Text.lower s)).toFinset.filter (· ∉ stopwords)).image fun w =>
    stemmer (Text.removeAccents w)

/-- The stems of a text by a stemmer, each once. -/
def stemsBy (stemmer : String → String) (s : String) : List String :=
  let ws := (Text.words (Text.lower s)).filter fun w => !stopwords.contains w
  (ws.map fun w => stemmer (Text.removeAccents w)).eraseDups

/-- The similarity of two texts by a stemmer. -/
def similarityBy {α : Type} [Score α] (stemmer : String → String) (mode : Mode) (a b : String) :
    α :=
  let left := stemsBy stemmer a
  let right := stemsBy stemmer b
  scoreOf mode left.length right.length (left.filter right.contains).length

/-- Similarity is that by the stemmer of this library. -/
lemma similarityBy_stem {α : Type} [Score α] (mode : Mode) (a b : String) :
    (similarityBy stem mode a b : α) = similarity mode a b := rfl

section

variable (stemmer : String → String)

lemma nodup_stemsBy (s : String) : (stemsBy stemmer s).Nodup := nodup_eraseDups _

lemma toFinset_stemsBy (s : String) : (stemsBy stemmer s).toFinset = stemSet stemmer s := by
  ext w
  simp [stemsBy, stemSet, and_assoc]

lemma length_stemsBy (s : String) : (stemsBy stemmer s).length = (stemSet stemmer s).card := by
  rw [← toFinset_stemsBy, List.toFinset_card_of_nodup (nodup_stemsBy stemmer s)]

lemma length_common (a b : String) :
    ((stemsBy stemmer a).filter (stemsBy stemmer b).contains).length =
      (stemSet stemmer a ∩ stemSet stemmer b).card := by
  rw [← toFinset_stemsBy, ← toFinset_stemsBy,
    ← List.toFinset_card_of_nodup ((nodup_stemsBy stemmer a).filter _)]
  refine congrArg Finset.card (Finset.ext fun w => ?_)
  rw [List.mem_toFinset, List.mem_filter, List.contains_iff_mem, Finset.mem_inter,
    List.mem_toFinset, List.mem_toFinset]

lemma similarityBy_eq {α : Type} [Score α] (mode : Mode) (a b : String) :
    (similarityBy stemmer mode a b : α) =
      scoreOf mode (stemSet stemmer a).card (stemSet stemmer b).card
        (stemSet stemmer a ∩ stemSet stemmer b).card := by
  rw [similarityBy, length_stemsBy, length_stemsBy, length_common]

end

/-! ### Overlap -/

/-- A score tells how far two sets overlap, from zero for disjoint sets to one for sets that are
equal and not empty. -/
structure MeasuresOverlap (A B : Finset String) (score : ℚ) : Prop where
  nonneg : 0 ≤ score
  le_one : score ≤ 1
  eq_zero_iff : score = 0 ↔ Disjoint A B
  eq_one_iff : score = 1 ↔ A = B ∧ A.Nonempty

section

variable (A B : Finset String)

lemma card_inter_le_left : (A ∩ B).card ≤ A.card :=
  Finset.card_le_card Finset.inter_subset_left

lemma card_inter_le_right : (A ∩ B).card ≤ B.card :=
  Finset.card_le_card Finset.inter_subset_right

lemma card_inter_pos_iff : 0 < (A ∩ B).card ↔ ¬ Disjoint A B := by
  rw [Finset.card_pos, Finset.not_disjoint_iff_nonempty_inter]

lemma card_eq_card_inter_iff :
    A.card = (A ∩ B).card ∧ B.card = (A ∩ B).card ∧ 0 < (A ∩ B).card ↔ A = B ∧ A.Nonempty := by
  constructor
  · rintro ⟨hA, hB, hpos⟩
    have hinterA : A ∩ B = A := Finset.eq_of_subset_of_card_le Finset.inter_subset_left hA.le
    have hinterB : A ∩ B = B := Finset.eq_of_subset_of_card_le Finset.inter_subset_right hB.le
    rw [hinterA, Finset.card_pos] at hpos
    exact ⟨hinterA.symm.trans hinterB, hpos⟩
  · rintro ⟨rfl, hne⟩
    simp [hne]

lemma measuresOverlap_scoreOf (mode : Mode) :
    MeasuresOverlap A B (scoreOf mode A.card B.card (A ∩ B).card) := by
  have hleft := card_inter_le_left A B
  have hright := card_inter_le_right A B
  have hnonneg : (0 : ℚ) ≤ scoreOf mode A.card B.card (A ∩ B).card :=
    scoreOf_nonneg mode hleft hright
  refine ⟨hnonneg, scoreOf_le_one mode hleft hright, ?_, ?_⟩
  · rw [← not_iff_not, ← card_inter_pos_iff, ← scoreOf_pos_iff mode hleft hright]
    exact hnonneg.lt_iff_ne'.symm
  · rw [scoreOf_eq_one_iff mode hleft hright, card_eq_card_inter_iff]

end

/-- Whatever the stemmer is, similarity divides by no zero, does not depend on the order of the
texts and measures how far their sets of stems overlap. As the harmonic mean of precision and recall
it is twice the number of common stems by the sum of the numbers of stems, and no less than the
share of common stems. By the stemmer of this library it is the similarity of this library. -/
theorem similarity_measures_overlap (stemmer : String → String) (a b : String) :
    (∀ mode : Mode,
      (similarityBy stemmer mode a b : Checked) = .value (similarityBy stemmer mode a b) ∧
      (similarityBy stemmer mode a b : ℚ) = similarityBy stemmer mode b a ∧
      MeasuresOverlap (stemSet stemmer a) (stemSet stemmer b) (similarityBy stemmer mode a b)) ∧
    (similarityBy stemmer .f1 a b : ℚ) =
      2 * (stemSet stemmer a ∩ stemSet stemmer b).card /
        ((stemSet stemmer a).card + (stemSet stemmer b).card) ∧
    (similarityBy stemmer .jaccard a b : ℚ) ≤ similarityBy stemmer .f1 a b ∧
    ∀ (α : Type) [Score α] (mode : Mode),
      (similarityBy stem mode a b : α) = similarity mode a b := by
  have hleft := card_inter_le_left (stemSet stemmer a) (stemSet stemmer b)
  have hright := card_inter_le_right (stemSet stemmer a) (stemSet stemmer b)
  simp only [similarityBy_eq]
  refine ⟨fun mode => ⟨?_, ?_, ?_⟩, ?_, ?_, fun α _ mode => ?_⟩
  · exact scoreOf_checked mode hleft hright
  · rw [Finset.inter_comm (stemSet stemmer b)]
    exact scoreOf_comm mode hleft hright
  · exact measuresOverlap_scoreOf _ _ mode
  · exact scoreOf_f1 hleft hright
  · exact scoreOf_jaccard_le_f1 hleft hright
  · rw [← similarityBy_eq, similarityBy_stem]

end GraphTalk.Utterance
