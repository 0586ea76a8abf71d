import Mathlib.Data.List.TakeWhile
import Mathlib.Tactic.Common
import GraphTalk.Text.Blank

/-!
# Trimming

A text is its trimmed form between two runs of blanks (`exists_eq_append_strip`). The trimmed form
has no blank at either end (`trimmed_strip`), and blanks around a text are not seen in it
(`strip_around`).
-/

namespace GraphTalk.Text.Chars

/-- A run of blanks, which may be empty. -/
def Blanks (cs : List Char) : Prop := ∀ c ∈ cs, isBlank c = true

/-- A text without a blank at either end. -/
structure Trimmed (cs : List Char) : Prop where
  first : ∀ c ∈ cs.head?, isBlank c = false
  last : ∀ c ∈ cs.getLast?, isBlank c = false

variable {cs ws ws' : List Char}

lemma blanks_nil : Blanks [] := by simp [Blanks]

lemma Trimmed.dropWhile (h : Trimmed cs) : cs.dropWhile isBlank = cs := by
  cases cs with
  | nil => rfl
  | cons c cs => exact List.dropWhile_cons_of_neg (by simp [h.first c rfl])

lemma Trimmed.reverse (h : Trimmed cs) : Trimmed cs.reverse := by
  constructor
  · rw [List.head?_reverse]
    exact h.last
  · rw [List.getLast?_reverse]
    exact h.first

/-- A text without blanks at its ends stays as it is. -/
lemma Trimmed.strip (h : Trimmed cs) : strip cs = cs := by
  rw [Chars.strip, h.dropWhile, dropWhileEnd, h.reverse.dropWhile, List.reverse_reverse]

/-- A text between two characters that are not blank. -/
lemma trimmed_between {c d : Char} (hc : isBlank c = false) (hd : isBlank d = false)
    (cs : List Char) : Trimmed (c :: (cs ++ [d])) := by
  constructor
  · simpa using hc
  · rw [← List.cons_append, List.getLast?_append]
    simpa using hd

/-! ### Blanks around a text -/

lemma strip_append_left (h : Blanks ws) (cs : List Char) : strip (ws ++ cs) = strip cs := by
  rw [strip, List.dropWhile_append_of_pos h, strip]

lemma dropWhileEnd_append_right (h : Blanks ws) (cs : List Char) :
    dropWhileEnd isBlank (cs ++ ws) = dropWhileEnd isBlank cs := by
  have hreverse : ∀ c ∈ ws.reverse, isBlank c = true := fun c hc => h c (List.mem_reverse.mp hc)
  rw [dropWhileEnd, List.reverse_append, List.dropWhile_append_of_pos hreverse, dropWhileEnd]

lemma strip_append_right (h : Blanks ws) (cs : List Char) : strip (cs ++ ws) = strip cs := by
  rw [strip, List.dropWhile_append, strip]
  split
  · rename_i hblank
    rw [List.isEmpty_iff] at hblank
    rw [hblank, List.dropWhile_eq_nil_iff.mpr h]
  · exact dropWhileEnd_append_right h _

/-- Blanks around a text are not seen in its trimmed form. -/
lemma strip_around (h : Blanks ws) (h' : Blanks ws') (cs : List Char) :
    strip (ws ++ cs ++ ws') = strip cs := by
  rw [strip_append_right h', strip_append_left h]

/-- What is taken off the end of a text is a run of blanks. -/
lemma exists_eq_append_dropWhileEnd (cs : List Char) :
    ∃ after, Blanks after ∧ cs = dropWhileEnd isBlank cs ++ after := by
  refine ⟨(cs.reverse.takeWhile isBlank).reverse, fun c hc => ?_, ?_⟩
  · exact List.mem_takeWhile_imp (List.mem_reverse.mp hc)
  · rw [dropWhileEnd, ← List.reverse_append, List.takeWhile_append_dropWhile, List.reverse_reverse]

/-- A text is its trimmed form with blanks around it. -/
lemma exists_eq_append_strip (cs : List Char) :
    ∃ before after, Blanks before ∧ Blanks after ∧ cs = before ++ strip cs ++ after := by
  obtain ⟨after, hafter, heq⟩ := exists_eq_append_dropWhileEnd (cs.dropWhile isBlank)
  refine ⟨cs.takeWhile isBlank, after, fun c hc => List.mem_takeWhile_imp hc, hafter, ?_⟩
  calc cs
    _ = cs.takeWhile isBlank ++ cs.dropWhile isBlank := List.takeWhile_append_dropWhile.symm
    _ = cs.takeWhile isBlank ++ (strip cs ++ after) := congrArg _ heq
    _ = cs.takeWhile isBlank ++ strip cs ++ after := (List.append_assoc _ _ _).symm

lemma length_strip_le (cs : List Char) : (strip cs).length ≤ cs.length := by
  obtain ⟨before, after, -, -, heq⟩ := exists_eq_append_strip cs
  have hlength := congrArg List.length heq
  simp only [List.length_append] at hlength
  omega

lemma head?_dropWhile_not (p : Char → Bool) (cs : List Char) :
    ∀ c ∈ (cs.dropWhile p).head?, p c = false := by
  intro c hc
  have hnot := List.head?_dropWhile_not p cs
  rw [Option.mem_def] at hc
  simpa [hc] using hnot

/-- The trimmed form of a text has no blanks at its ends. -/
lemma trimmed_strip (cs : List Char) : Trimmed (strip cs) := by
  constructor
  · intro c hc
    obtain ⟨after, -, heq⟩ := exists_eq_append_dropWhileEnd (cs.dropWhile isBlank)
    refine head?_dropWhile_not isBlank cs c ?_
    rw [heq, List.head?_append, Option.mem_def, Option.or_eq_some_iff]
    exact .inl hc
  · rw [strip, dropWhileEnd, List.getLast?_reverse]
    exact head?_dropWhile_not isBlank _

@[simp] lemma strip_strip (cs : List Char) : strip (strip cs) = strip cs :=
  (trimmed_strip cs).strip

end GraphTalk.Text.Chars
