import Mathlib.Algebra.BigOperators.Intervals
import GraphTalk.Proofs.Utterance.Spans

/-!
# The enumeration of spans

The runs of a list are in order of where they are: by length, then by start (`allRuns_eq_map`,
`pairwise_positions`). They are exactly its contiguous parts that are not empty (`mem_allRuns`). So
the spans of utterances are what such runs of words make, each once, and further utterances only add
to their end (`keywordSpans_enumerates`).
-/

namespace GraphTalk.Utterance

/-! ### Positions -/

/-- The lengths and starts of the runs of a number of items. -/
def positions (n : ℕ) : List (ℕ × ℕ) :=
  (List.range n).flatMap fun k => (List.range (n - k)).map fun start => (k + 1, start)

lemma mem_positions {n size start : ℕ} :
    (size, start) ∈ positions n ↔ 0 < size ∧ start + size ≤ n := by
  simp only [positions, List.mem_flatMap, List.mem_map, List.mem_range, Prod.mk.injEq]
  constructor
  · rintro ⟨k, hk, _, hstart, rfl, rfl⟩
    omega
  · rintro ⟨hpos, hle⟩
    exact ⟨size - 1, by omega, start, by omega, by omega, rfl⟩

/-- Positions are ordered by length, and those of one length by start. -/
lemma pairwise_positions (n : ℕ) : (positions n).Pairwise (Prod.Lex (· < ·) (· < ·)) := by
  rw [positions, List.pairwise_flatMap]
  constructor
  · intro k _
    rw [List.pairwise_map]
    exact List.pairwise_lt_range.imp fun h => Prod.Lex.right _ h
  · refine List.pairwise_lt_range.imp fun {j k} hjk => ?_
    rintro _ hx _ hy
    obtain ⟨x, _, rfl⟩ := List.mem_map.mp hx
    obtain ⟨y, _, rfl⟩ := List.mem_map.mp hy
    exact Prod.Lex.left _ _ (Nat.succ_lt_succ hjk)

lemma length_positions (n : ℕ) : (positions n).length = n * (n + 1) / 2 := by
  have hlengths : (positions n).length = ∑ k ∈ Finset.range n, (n - k) := by
    simp only [positions, List.length_flatMap, List.length_map, List.length_range]
    rfl
  have hsum : ∑ k ∈ Finset.range n, (n - k) = ∑ k ∈ Finset.range (n + 1), k := by
    rw [← Finset.sum_flip, Finset.sum_range_succ, Nat.sub_self, add_zero]
  rw [hlengths, hsum, Finset.sum_range_id, Nat.add_sub_cancel, mul_comm]

/-! ### Runs -/

section

variable {α : Type} {items run : List α}

/-- The run of a length from a start on. -/
def runAt (items : List α) (position : ℕ × ℕ) : List α :=
  (items.drop position.2).take position.1

lemma allRuns_eq_map (items : List α) :
    allRuns items = (positions items.length).map (runAt items) := by
  rw [allRuns, positions, List.map_flatMap]
  refine List.flatMap_congr fun k _ => ?_
  rw [runs, List.map_map, Nat.add_sub_add_right]
  rfl

/-- The runs of a list are its contiguous parts. -/
lemma mem_allRuns : run ∈ allRuns items ↔ run ≠ [] ∧ run <:+: items := by
  refine ⟨fun h => ⟨ne_nil_of_mem_allRuns h, ?_⟩, ?_⟩
  · rw [allRuns_eq_map] at h
    obtain ⟨position, _, rfl⟩ := List.mem_map.mp h
    exact (List.take_prefix _ _).isInfix.trans (List.drop_suffix _ _).isInfix
  · rintro ⟨hne, before, after, rfl⟩
    rw [allRuns_eq_map]
    refine List.mem_map.mpr ⟨(run.length, before.length), mem_positions.mpr ⟨?_, ?_⟩, ?_⟩
    · exact List.length_pos_iff.mpr hne
    · simp
    · simp [runAt]

end

/-! ### Spans -/

section

variable {s span : String} {seen added keywords : List String}

lemma mem_spans :
    span ∈ spans s ↔ ∃ run, run ≠ [] ∧ run <:+: tokenize s ∧ span = Text.joinWords run := by
  simp only [spans, List.mem_map, mem_allRuns, and_assoc, @eq_comm _ span]

lemma spans_eq_map (s : String) :
    spans s =
      (positions (tokenize s).length).map fun p => Text.joinWords (runAt (tokenize s) p) := by
  rw [spans, allRuns_eq_map, List.map_map]
  rfl

/-- Words that stand in an utterance one after the other are told apart in the text they make. -/
lemma words_joinWords_of_infix {run : List String} (h : run <:+: tokenize s) :
    Text.words (Text.joinWords run) = run :=
  Text.words_joinWords fun _ hw => Text.isWord_of_mem_words (h.subset hw)

lemma prefix_addNew (seen added : List String) : seen <+: addNew seen added := by
  induction added generalizing seen with
  | nil => exact List.prefix_rfl
  | cons span added ih =>
    rw [addNew]
    split
    · exact ih seen
    · exact (List.prefix_append seen [span]).trans (ih _)

lemma nodup_addNew (h : seen.Nodup) : (addNew seen added).Nodup := by
  induction added generalizing seen with
  | nil => exact h
  | cons span added ih =>
    rw [addNew]
    split
    · exact ih h
    · rename_i hnew
      rw [List.contains_iff_mem] at hnew
      exact ih (List.nodup_append.mpr ⟨h, List.nodup_singleton span, by grind⟩)

/-- What is there already is not added again. -/
lemma addNew_of_subset (h : added ⊆ seen) : addNew seen added = seen := by
  induction added with
  | nil => rfl
  | cons span added ih =>
    rw [List.cons_subset] at h
    rw [addNew, if_pos (List.contains_iff_mem.mpr h.1), ih h.2]

lemma prefix_foldl_addNew (keywords seen : List String) :
    seen <+: keywords.foldl (fun seen k => addNew seen (spans k)) seen := by
  induction keywords generalizing seen with
  | nil => exact List.prefix_rfl
  | cons k keywords ih =>
    rw [List.foldl_cons]
    exact (prefix_addNew seen (spans k)).trans (ih _)

lemma nodup_foldl_addNew (h : seen.Nodup) :
    (keywords.foldl (fun seen k => addNew seen (spans k)) seen).Nodup := by
  induction keywords generalizing seen with
  | nil => exact h
  | cons k keywords ih =>
    rw [List.foldl_cons]
    exact ih (nodup_addNew h)

lemma foldl_addNew_of_subset (h : ∀ k ∈ keywords, spans k ⊆ seen) :
    keywords.foldl (fun seen k => addNew seen (spans k)) seen = seen := by
  induction keywords with
  | nil => rfl
  | cons k keywords ih =>
    rw [List.forall_mem_cons] at h
    rw [List.foldl_cons, addNew_of_subset h.1, ih h.2]

/-- Spans of further utterances are added to those of the first ones. -/
lemma keywordSpans_append (keywords more : List String) :
    keywordSpans (keywords ++ more) =
      more.foldl (fun seen k => addNew seen (spans k)) (keywordSpans keywords) :=
  List.foldl_append

end

/-- The spans of utterances are listed once each; they are what the contiguous runs of words of the
utterances make with one space between two, and are split into these words again. The spans of one
utterance are in the order of where their runs are, by length and then by start. Further utterances
add spans at the end, and the same ones add none. -/
theorem keywordSpans_enumerates (keywords more : List String) :
    (keywordSpans keywords).Nodup ∧
    (∀ span, span ∈ keywordSpans keywords ↔
      ∃ k ∈ keywords, ∃ run, run ≠ [] ∧ run <:+: tokenize k ∧ span = Text.joinWords run) ∧
    (∀ k run, run <:+: tokenize k → Text.words (Text.joinWords run) = run) ∧
    (∀ s, (spans s).length = (tokenize s).length * ((tokenize s).length + 1) / 2 ∧
      ∃ places : List (ℕ × ℕ),
        spans s = places.map (fun p => Text.joinWords (runAt (tokenize s) p)) ∧
        places.Pairwise (Prod.Lex (· < ·) (· < ·)) ∧
        ∀ size start, (size, start) ∈ places ↔ 0 < size ∧ start + size ≤ (tokenize s).length) ∧
    keywordSpans keywords <+: keywordSpans (keywords ++ more) ∧
    keywordSpans (keywords ++ keywords) = keywordSpans keywords := by
  refine ⟨nodup_foldl_addNew List.nodup_nil, fun span => ?_, fun k run => words_joinWords_of_infix,
    fun s => ⟨?_, _, spans_eq_map s, pairwise_positions _, fun _ _ => mem_positions⟩, ?_, ?_⟩
  · simp only [mem_keywordSpans, mem_spans]
  · rw [spans_eq_map, List.length_map, length_positions]
  · rw [keywordSpans_append]
    exact prefix_foldl_addNew more _
  · rw [keywordSpans_append]
    exact foldl_addNew_of_subset fun k hk span hspan => mem_keywordSpans.mpr ⟨k, hk, hspan⟩

/-- A run of words of an utterance that ends in a mark. -/
theorem keywordSpans_enumerates_europe :
    ["in", "Europe"] <:+: tokenize " countries in  Europe? " ∧
      Text.words (Text.joinWords ["in", "Europe"]) = ["in", "Europe"] := by
  have hwords : tokenize " countries in  Europe? " = ["countries", "in", "Europe"] := by rfl
  have hrun : ["in", "Europe"] <:+: tokenize " countries in  Europe? " := by
    rw [hwords]
    decide
  exact ⟨hrun, (keywordSpans_enumerates [" countries in  Europe? "] []).2.2.1 _ _ hrun⟩

example : keywordSpans ["Europe", "countries in Europe"] =
    ["Europe", "countries", "in", "countries in", "in Europe", "countries in Europe"] := by
  decide +kernel

end GraphTalk.Utterance
