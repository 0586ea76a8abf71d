import GraphTalk.Proofs.Text.Spacing
import GraphTalk.Utterance.Span

/-!
# Spans

A span of an utterance is made of a run of its words, so it is never empty
(`ne_empty_of_mem_keywordSpans`).
-/

namespace GraphTalk.Utterance

/-! ### Runs -/

section

variable {α : Type} {size : Nat} {items run : List α}

lemma length_of_mem_runs (h : run ∈ runs size items) : run.length = size := by
  obtain ⟨i, hi, rfl⟩ := List.mem_map.mp h
  rw [List.mem_range] at hi
  rw [List.length_take, List.length_drop]
  omega

lemma subset_of_mem_runs (h : run ∈ runs size items) : run ⊆ items := by
  obtain ⟨i, -, rfl⟩ := List.mem_map.mp h
  exact List.Subset.trans (List.take_subset _ _) (List.drop_subset _ _)

lemma ne_nil_of_mem_allRuns (h : run ∈ allRuns items) : run ≠ [] := by
  obtain ⟨n, -, hrun⟩ := List.mem_flatMap.mp h
  rw [← List.length_pos_iff, length_of_mem_runs hrun]
  exact n.succ_pos

lemma subset_of_mem_allRuns (h : run ∈ allRuns items) : run ⊆ items := by
  obtain ⟨n, -, hrun⟩ := List.mem_flatMap.mp h
  exact subset_of_mem_runs hrun

end

/-! ### Spans -/

/-- A span tells the run of words that it was made from. -/
lemma words_joinWords_of_mem_allRuns {s : String} {run : List String}
    (h : run ∈ allRuns (tokenize s)) : Text.words (Text.joinWords run) = run :=
  Text.words_joinWords fun _ hw => Text.isWord_of_mem_words (subset_of_mem_allRuns h hw)

lemma ne_empty_of_mem_spans {s span : String} (h : span ∈ spans s) : span ≠ "" := by
  obtain ⟨run, hrun, rfl⟩ := List.mem_map.mp h
  intro hempty
  have hwords := words_joinWords_of_mem_allRuns hrun
  rw [hempty] at hwords
  exact ne_nil_of_mem_allRuns hrun hwords.symm

lemma mem_addNew {seen added : List String} {span : String} :
    span ∈ addNew seen added ↔ span ∈ seen ∨ span ∈ added := by
  induction added generalizing seen with
  | nil => simp [addNew]
  | cons s added ih =>
    rw [addNew, ih, List.mem_cons]
    by_cases hs : seen.contains s
    · rw [if_pos hs]
      grind
    · rw [if_neg hs]
      grind

lemma mem_foldl_addNew {keywords seen : List String} {span : String} :
    span ∈ keywords.foldl (fun seen k => addNew seen (spans k)) seen ↔
      span ∈ seen ∨ ∃ k ∈ keywords, span ∈ spans k := by
  induction keywords generalizing seen with
  | nil => simp
  | cons k keywords ih => simp [ih, mem_addNew, or_assoc]

theorem mem_keywordSpans {keywords : List String} {span : String} :
    span ∈ keywordSpans keywords ↔ ∃ k ∈ keywords, span ∈ spans k := by
  simp [keywordSpans, mem_foldl_addNew]

/-- No span is empty. -/
theorem ne_empty_of_mem_keywordSpans {keywords : List String} {span : String}
    (h : span ∈ keywordSpans keywords) : span ≠ "" := by
  obtain ⟨k, -, hspan⟩ := mem_keywordSpans.mp h
  exact ne_empty_of_mem_spans hspan

end GraphTalk.Utterance
