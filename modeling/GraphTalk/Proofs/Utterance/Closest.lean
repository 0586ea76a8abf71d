import Mathlib.Algebra.Order.Monoid.Unbundled.WithTop
import GraphTalk.Proofs.Utterance.Similarity

/-!
# The closest candidate

A search keeps the first of the best candidates so far (`BestOf`), whatever the order of scores is.
So it ends with the first candidate of the greatest similarity, if that is above the threshold, and
with none otherwise (`closestAbove_eq_some_iff`, `closestAbove_eq_none_iff`). To start from nothing
is to start from a score that is below all others (`closestAbove_eq_foldl_improve`). Since both
measures order candidates alike, they choose alike when the threshold is zero
(`closestByName_first_best`).
-/

namespace GraphTalk.Utterance

/-! ### The first best -/

/-- A candidate is the first of those with the greatest score. -/
def IsFirstBest {β : Type} [LT β] [LE β] (score : String → β) (candidates : List String)
    (c : String) : Prop :=
  ∃ before after, candidates = before ++ c :: after ∧ (∀ b ∈ before, score b < score c) ∧
    ∀ a ∈ after, score a ≤ score c

section

variable {β : Type} [Preorder β] {score : String → β} {candidates : List String} {c c' : String}

lemma IsFirstBest.mem (h : IsFirstBest score candidates c) : c ∈ candidates := by
  obtain ⟨before, after, rfl, -, -⟩ := h
  simp

lemma IsFirstBest.le (h : IsFirstBest score candidates c) {b : String} (hb : b ∈ candidates) :
    score b ≤ score c := by
  obtain ⟨before, after, rfl, hbefore, hafter⟩ := h
  rcases List.mem_append.mp hb with hb | hb
  · exact (hbefore b hb).le
  · rcases List.mem_cons.mp hb with rfl | hb
    · exact le_rfl
    · exact hafter b hb

lemma IsFirstBest.unique (h : IsFirstBest score candidates c)
    (h' : IsFirstBest score candidates c') : c = c' := by
  obtain ⟨before, after, rfl, hbefore, -⟩ := id h
  obtain ⟨before', after', heq, hbefore', -⟩ := id h'
  rcases List.append_eq_append_iff.mp heq with ⟨middle, rfl, hrest⟩ | ⟨middle, rfl, hrest⟩
  · -- the second one stands later, so the first is not before it
    cases middle with
    | nil => exact (List.cons.inj hrest).1
    | cons d middle =>
      obtain rfl := (List.cons.inj hrest).1
      exact absurd (hbefore' c (by simp)) (not_lt_of_ge (h.le h'.mem))
  · cases middle with
    | nil => exact (List.cons.inj hrest).1.symm
    | cons d middle =>
      obtain rfl := (List.cons.inj hrest).1
      exact absurd (hbefore c' (by simp)) (not_lt_of_ge (h'.le h.mem))

/-- A further candidate that is no better changes nothing. -/
lemma IsFirstBest.append_of_le (h : IsFirstBest score candidates c) {d : String}
    (hle : score d ≤ score c) : IsFirstBest score (candidates ++ [d]) c := by
  obtain ⟨before, after, rfl, hbefore, hafter⟩ := h
  refine ⟨before, after ++ [d], by simp, hbefore, fun a ha => ?_⟩
  rcases List.mem_append.mp ha with ha | ha
  · exact hafter a ha
  · rwa [List.mem_singleton.mp ha]

/-- A candidate that is better than all before it is the first best. -/
lemma isFirstBest_append (h : ∀ b ∈ candidates, score b < score c) :
    IsFirstBest score (candidates ++ [c]) c :=
  ⟨candidates, [], rfl, h, by simp⟩

end

/-! ### The search -/

/-- Scores whose comparisons are those of an order. -/
class LawfulScore (α : Type) [Score α] [LinearOrder α] : Prop where
  le_iff (a b : α) : Score.le a b = true ↔ a ≤ b
  lt_iff (a b : α) : Score.lt a b = true ↔ a < b

/-- What a search for the best candidate has found so far. -/
inductive BestOf {α : Type} [LinearOrder α] (score : String → α) (threshold : α) :
    List String → Option (String × α) → Prop where
  | none {seen : List String} (h : ∀ c ∈ seen, score c ≤ threshold) :
      BestOf score threshold seen none
  | some {seen : List String} {c : String} (habove : threshold < score c)
      (h : IsFirstBest score seen c) : BestOf score threshold seen (some (c, score c))

section

variable {α : Type} [Score α] [LinearOrder α] [LawfulScore α] {mode : Mode} {target : String}
  {candidates : List String} {threshold : α} {c : String}

/-- One more candidate is looked at. -/
lemma BestOf.better {seen : List String} {best : Option (String × α)}
    (h : BestOf (similarity mode target) threshold seen best) (c : String) :
    BestOf (similarity mode target) threshold (seen ++ [c])
      (better mode target threshold best c) := by
  simp only [Utterance.better, LawfulScore.le_iff, LawfulScore.lt_iff]
  split
  · rename_i hle
    cases h with
    | none h =>
      refine .none fun b hb => ?_
      rcases List.mem_append.mp hb with hb | hb
      · exact h b hb
      · rwa [List.mem_singleton.mp hb]
    | some habove h => exact .some habove (h.append_of_le (hle.trans habove.le))
  · rename_i hlt
    rw [not_le] at hlt
    cases h with
    | none h => exact .some hlt (isFirstBest_append fun b hb => (h b hb).trans_lt hlt)
    | some habove h =>
      simp only
      split
      · rename_i hbetter
        exact .some hlt (isFirstBest_append fun b hb => (h.le hb).trans_lt hbetter)
      · rename_i hworse
        exact .some habove (h.append_of_le (not_lt.mp hworse))

lemma bestOf_foldl (candidates : List String) {seen : List String} {best : Option (String × α)}
    (h : BestOf (similarity mode target) threshold seen best) :
    BestOf (similarity mode target) threshold (seen ++ candidates)
      (candidates.foldl (better mode target threshold) best) := by
  induction candidates generalizing seen best with
  | nil => rwa [List.append_nil]
  | cons c candidates ih =>
    rw [List.foldl_cons, List.append_cons]
    exact ih (h.better c)

/-- What a search ends with. -/
lemma bestOf_candidates (mode : Mode) (target : String) (candidates : List String)
    (threshold : α) :
    BestOf (similarity mode target) threshold candidates
      (candidates.foldl (better mode target threshold) none) :=
  bestOf_foldl candidates (.none (List.forall_mem_nil _))

theorem closestAbove_eq_none_iff : closestAbove mode target candidates threshold = none ↔
    ∀ c ∈ candidates, similarity mode target c ≤ threshold := by
  have h := bestOf_candidates mode target candidates threshold
  rw [closestAbove]
  generalize candidates.foldl (Utterance.better mode target threshold) none = best at h
  cases h with
  | none h => exact iff_of_true rfl h
  | some habove h => exact iff_of_false nofun fun hle => not_le_of_gt habove (hle _ h.mem)

theorem closestAbove_eq_some_iff : closestAbove mode target candidates threshold = some c ↔
    threshold < similarity mode target c ∧
      IsFirstBest (β := α) (similarity mode target) candidates c := by
  have h := bestOf_candidates mode target candidates threshold
  rw [closestAbove]
  generalize candidates.foldl (Utterance.better mode target threshold) none = best at h
  cases h with
  | none h => exact iff_of_false nofun fun hbest => not_le_of_gt hbest.1 (h _ hbest.2.mem)
  | some habove h =>
    constructor
    · intro heq
      obtain rfl := Option.some.inj heq
      exact ⟨habove, h⟩
    · rintro ⟨-, hbest⟩
      exact congrArg some (h.unique hbest)

end

/-! ### A score to start from -/

section

variable {α : Type} [Score α]

/-- The better of a candidate and what was found so far, which has a score also if it is none. -/
def improve (mode : Mode) (target : String) (threshold : α) (best : Option String × α)
    (candidate : String) : Option String × α :=
  let score : α := similarity mode target candidate
  if Score.le score threshold then best
  else if Score.lt best.2 score then (some candidate, score) else best

/-- What was found so far, with a score to start from. -/
def orFloor (floor : α) : Option (String × α) → Option String × α
  | none => (none, floor)
  | some (c, score) => (some c, score)

variable [LinearOrder α] [LawfulScore α] {mode : Mode} {target : String} {candidates : List String}
  {threshold floor : α}

lemma improve_orFloor {c : String} (hfloor : floor < similarity mode target c)
    (best : Option (String × α)) : improve mode target threshold (orFloor floor best) c =
      orFloor floor (better mode target threshold best c) := by
  simp only [improve, better, LawfulScore.le_iff, LawfulScore.lt_iff]
  split
  · rfl
  · cases best with
    | none => exact if_pos hfloor
    | some found =>
      by_cases hbetter : found.2 < similarity mode target c <;> simp [orFloor, hbetter]

lemma foldl_improve (hfloor : ∀ c ∈ candidates, floor < similarity mode target c)
    (best : Option (String × α)) :
    candidates.foldl (improve mode target threshold) (orFloor floor best) =
      orFloor floor (candidates.foldl (better mode target threshold) best) := by
  induction candidates generalizing best with
  | nil => rfl
  | cons c candidates ih =>
    obtain ⟨hc, hcandidates⟩ := List.forall_mem_cons.mp hfloor
    rw [List.foldl_cons, List.foldl_cons, improve_orFloor hc, ih hcandidates]

/-- A search may start from any score that is below those of all candidates. -/
theorem closestAbove_eq_foldl_improve
    (hfloor : ∀ c ∈ candidates, floor < similarity mode target c) :
    closestAbove mode target candidates threshold =
      (candidates.foldl (improve mode target threshold) (none, floor)).1 := by
  have hfold : candidates.foldl (improve mode target threshold) (none, floor) =
      orFloor floor (candidates.foldl (better mode target threshold) none) :=
    foldl_improve hfloor none
  rw [hfold, closestAbove]
  cases candidates.foldl (better mode target threshold) none <;> rfl

end

/-! ### Exact scores -/

instance : LawfulScore ℚ where
  le_iff _ _ := decide_eq_true_iff
  lt_iff _ _ := decide_eq_true_iff

/-- Thresholds: rational numbers, and a bound below and one above all of them. -/
abbrev Threshold := WithBot (WithTop ℚ)

/-- Thresholds as scores, with the arithmetic of rational numbers. -/
instance : Score Threshold where
  ofNat n := ((n : ℚ) : WithTop ℚ)
  add := WithBot.map₂ (WithTop.map₂ (· + ·))
  mul := WithBot.map₂ (WithTop.map₂ (· * ·))
  div := WithBot.map₂ (WithTop.map₂ (· / ·))
  le a b := a ≤ b
  lt a b := a < b

instance : LawfulScore Threshold where
  le_iff _ _ := decide_eq_true_iff
  lt_iff _ _ := decide_eq_true_iff

/-- A rational number as a threshold. -/
def Threshold.ofRat (q : ℚ) : Threshold := (q : WithTop ℚ)

namespace Threshold

@[simp] lemma ofRat_lt {p q : ℚ} : ofRat p < ofRat q ↔ p < q := by simp [ofRat]

@[simp] lemma ofRat_le {p q : ℚ} : ofRat p ≤ ofRat q ↔ p ≤ q := by simp [ofRat]

end Threshold

/-- The scores that are compared with a threshold are the exact ones. -/
lemma similarity_threshold (mode : Mode) (a b : String) :
    (similarity mode a b : Threshold) = .ofRat (similarity mode a b) := by
  rw [similarity_eq, similarity_eq]
  generalize (stems a).length = left, (stems b).length = right, (commonStems a b).length = overlap
  simp only [scoreOf]
  split
  · rfl
  · cases mode with
    | jaccard => rfl
    | f1 =>
      simp only
      split
      · rfl
      · rfl

/-- Whatever the threshold is, a search may start from minus one. -/
theorem closestAbove_eq_from_minus_one (mode : Mode) (target : String) (candidates : List String)
    (threshold : Threshold) : closestAbove mode target candidates threshold =
      (candidates.foldl (improve mode target threshold) (none, .ofRat (-1))).1 := by
  refine closestAbove_eq_foldl_improve fun c _ => ?_
  rw [similarity_threshold, Threshold.ofRat_lt]
  linarith [similarity_nonneg mode target c]

/-! ### Candidates by their similarity -/

/-- The name of a measure. -/
def Mode.name : Mode → String
  | .f1 => "f1"
  | .jaccard => "jaccard"

lemma Mode.ofName?_name (mode : Mode) : Mode.ofName? mode.name = some mode := by
  cases mode <;> rfl

/-- A measure that is given by its name is the one that is used. -/
lemma closestByName_name {α : Type} [Score α] (mode : Mode) (target : String)
    (candidates : List String) (threshold : α) :
    closestByName mode.name target candidates threshold =
      .ok (closestAbove mode target candidates threshold) := by
  cases candidates with
  | nil => rfl
  | cons c candidates => simp [closestByName, mode.ofName?_name]

section

variable {mode mode' : Mode} {target c : String} {candidates : List String}

lemma isFirstBest_threshold_iff :
    IsFirstBest (β := Threshold) (similarity mode target) candidates c ↔
      IsFirstBest (β := ℚ) (similarity mode target) candidates c := by
  simp only [IsFirstBest, similarity_threshold, Threshold.ofRat_lt, Threshold.ofRat_le]

/-- What is the first best by one measure is so by the other. -/
lemma isFirstBest_mode_iff (mode mode' : Mode) :
    IsFirstBest (β := ℚ) (similarity mode target) candidates c ↔
      IsFirstBest (β := ℚ) (similarity mode' target) candidates c := by
  simp only [IsFirstBest, similarity_lt_iff mode mode', similarity_le_iff mode mode']

/-- With a threshold of zero both measures choose alike. -/
lemma closestAbove_zero_eq (mode mode' : Mode) (target : String) (candidates : List String) :
    closestAbove mode target candidates (Threshold.ofRat 0) =
      closestAbove mode' target candidates (Threshold.ofRat 0) := by
  refine Option.ext fun c => ?_
  simp only [closestAbove_eq_some_iff, isFirstBest_threshold_iff, similarity_threshold,
    Threshold.ofRat_lt, similarity_pos_iff]
  rw [isFirstBest_mode_iff mode mode']

end

/-! ### Mentions -/

/-- The closest candidate by exact scores, if any has a stem in common with the target. -/
def closestExact (mode : Mode) (target : String) (candidates : List String) : Option String :=
  closestAbove mode target candidates (0 : ℚ)

/-- No span has a stem in common with a text. -/
def Unmentioned (spans : List String) (text : String) : Prop :=
  ∀ span ∈ spans, ¬ SharesStem text span

/-- A text has a stem in common with some span, and the given span is the first of those that are
most similar to it. -/
structure IsMention (mode : Mode) (spans : List String) (text span : String) : Prop where
  mentioned : ∃ s ∈ spans, SharesStem text s
  first : IsFirstBest (β := ℚ) (similarity mode text) spans span

section

variable {mode : Mode} {spans : List String} {text span : String}

lemma closestExact_eq_none_iff : closestExact mode text spans = none ↔ Unmentioned spans text := by
  simp only [closestExact, closestAbove_eq_none_iff, Unmentioned, ← similarity_pos_iff mode, not_lt]

lemma closestExact_eq_some_iff :
    closestExact mode text spans = some span ↔ IsMention mode spans text span := by
  rw [closestExact, closestAbove_eq_some_iff]
  constructor
  · rintro ⟨hpos, hfirst⟩
    exact ⟨⟨span, hfirst.mem, (similarity_pos_iff mode).mp hpos⟩, hfirst⟩
  · rintro ⟨⟨s, hs, hshares⟩, hfirst⟩
    exact ⟨((similarity_pos_iff mode).mpr hshares).trans_le (hfirst.le hs), hfirst⟩

end

/-- The search for the closest candidate finds none exactly if no candidate has a similarity above
the threshold, and otherwise the first one of the greatest similarity. With a threshold of zero both
measures find the same. -/
theorem closestByName_first_best (target : String) (candidates : List String) :
    (∀ (mode : Mode) (threshold : Threshold),
      (closestByName mode.name target candidates threshold = .ok none ↔
        ¬ ∃ c ∈ candidates, threshold < .ofRat (similarity mode target c)) ∧
      (∀ c, closestByName mode.name target candidates threshold = .ok (some c) ↔
        threshold < .ofRat (similarity mode target c) ∧
          IsFirstBest (β := ℚ) (similarity mode target) candidates c) ∧
      ∃ found, closestByName mode.name target candidates threshold = .ok found) ∧
    closestByName Mode.f1.name target candidates (Threshold.ofRat 0) =
      closestByName Mode.jaccard.name target candidates (Threshold.ofRat 0) := by
  simp only [closestByName_name, Except.ok.injEq]
  refine ⟨fun mode threshold => ⟨?_, fun c => ?_, _, rfl⟩, ?_⟩
  · rw [closestAbove_eq_none_iff]
    simp only [similarity_threshold, not_exists, not_and, not_lt]
  · rw [closestAbove_eq_some_iff, isFirstBest_threshold_iff, similarity_threshold]
  · exact closestAbove_zero_eq .f1 .jaccard target candidates

end GraphTalk.Utterance
