import Mathlib.Tactic.Common
import GraphTalk.Text.Blank

/-!
# Lines

The lines of two texts with a line feed between them are the lines of both, with at most an empty
one between them (`lines_append_line_feed`): the line feed ends the last line of the first text, or
belongs to a carriage return that does, or else is a line of its own. A line is the only line of
itself (`lines_of_mem_lines`).
-/

namespace GraphTalk.Text.Chars

variable {c : Char} {cs l : List Char}

lemma lines_crlf (cs : List Char) : lines ('\r' :: '\n' :: cs) = [] :: lines cs := rfl

lemma lines_cons (h : c = '\r' → cs.head? ≠ some '\n') :
    lines (c :: cs) =
      if isLineBreak c then [] :: lines cs
      else match lines cs with
        | [] => [[c]]
        | l :: ls => (c :: l) :: ls := by
  refine lines.eq_3 c cs ?_
  rintro rest rfl rfl
  exact h rfl rfl

/-- An end of a line that is not a carriage return with a line feed behind it. -/
lemma lines_break (hc : isLineBreak c = true) (hfeed : c = '\r' → cs.head? ≠ some '\n') :
    lines (c :: cs) = [] :: lines cs := by
  rw [lines_cons hfeed, if_pos hc]

lemma lines_inside (hc : isLineBreak c = false) :
    lines (c :: cs) = match lines cs with
      | [] => [[c]]
      | l :: ls => (c :: l) :: ls := by
  have hreturn : c = '\r' → cs.head? ≠ some '\n' := by
    rintro rfl
    exact absurd hc (by decide)
  rw [lines_cons hreturn, if_neg (by simp [hc])]

/-- A text that is not empty has a line. -/
lemma lines_ne_nil (c : Char) (cs : List Char) : lines (c :: cs) ≠ [] := by
  cases hc : isLineBreak c with
  | true =>
    by_cases hfeed : c = '\r' ∧ cs.head? = some '\n'
    · obtain ⟨rfl, hhead⟩ := hfeed
      obtain ⟨cs, rfl⟩ := List.head?_eq_some_iff.mp hhead
      simp [lines_crlf]
    · simp [lines_break hc fun hreturn hhead => hfeed ⟨hreturn, hhead⟩]
  | false =>
    rw [lines_inside hc]
    split <;> simp

/-- A line feed between two texts ends the last line of the first or is an empty line. -/
theorem lines_append_line_feed (first second : List Char) :
    ∃ blank, (blank = [] ∨ blank = [[]]) ∧
      lines (first ++ '\n' :: second) = lines first ++ (blank ++ lines second) := by
  have hfeed : lines ('\n' :: second) = [] :: lines second :=
    lines_break (by decide) (by simp)
  fun_induction lines first with
  | case1 => exact ⟨[[]], .inr rfl, hfeed⟩
  | case2 cs ih =>
    obtain ⟨blank, hblank, heq⟩ := ih
    refine ⟨blank, hblank, ?_⟩
    rw [List.cons_append, List.cons_append, lines_crlf, heq, List.cons_append]
  | case3 c cs hcrlf hc ih =>
    by_cases hreturn : c = '\r' ∧ cs = []
    · -- the line feed belongs to the carriage return before it
      obtain ⟨rfl, rfl⟩ := hreturn
      exact ⟨[], .inl rfl, lines_crlf second⟩
    · obtain ⟨blank, hblank, heq⟩ := ih
      refine ⟨blank, hblank, ?_⟩
      have hhead : c = '\r' → (cs ++ '\n' :: second).head? ≠ some '\n' := by
        intro hc hhead
        obtain ⟨d, rest, rfl⟩ := List.exists_cons_of_ne_nil fun hnil => hreturn ⟨hc, hnil⟩
        exact hcrlf rest hc (congrArg (· :: rest) (Option.some.inj hhead))
      rw [List.cons_append, lines_break hc hhead, heq, List.cons_append]
  | case4 c cs hcrlf hc hnone ih =>
    obtain rfl : cs = [] := by
      cases cs with
      | nil => rfl
      | cons d cs => exact absurd hnone (lines_ne_nil d cs)
    refine ⟨[], .inl rfl, ?_⟩
    rw [List.singleton_append, lines_inside (by simpa using hc), hfeed]
    rfl
  | case5 c cs hcrlf hc l ls hlines ih =>
    obtain ⟨blank, hblank, heq⟩ := ih
    refine ⟨blank, hblank, ?_⟩
    rw [List.cons_append, lines_inside (by simpa using hc), heq, hlines]
    rfl

/-- No line has the end of a line in it. -/
lemma not_isLineBreak_of_mem_lines (h : l ∈ lines cs) : ∀ c ∈ l, isLineBreak c = false := by
  fun_induction lines cs generalizing l with
  | case1 => cases h
  | case2 cs ih =>
    rcases List.mem_cons.mp h with rfl | h
    · simp
    · exact ih h
  | case3 c cs hcrlf hc ih =>
    rcases List.mem_cons.mp h with rfl | h
    · simp
    · exact ih h
  | case4 c cs hcrlf hc hnone ih =>
    rw [List.mem_singleton.mp h]
    simpa using hc
  | case5 c cs hcrlf hc first ls hlines ih =>
    rw [hlines] at ih
    rcases List.mem_cons.mp h with rfl | h
    · exact List.forall_mem_cons.mpr ⟨by simpa using hc, ih List.mem_cons_self⟩
    · exact ih (List.mem_cons_of_mem _ h)

lemma lines_of_not_isLineBreak (hne : cs ≠ []) (h : ∀ c ∈ cs, isLineBreak c = false) :
    lines cs = [cs] := by
  induction cs with
  | nil => exact absurd rfl hne
  | cons c cs ih =>
    obtain ⟨hc, hcs⟩ := List.forall_mem_cons.mp h
    rw [lines_inside hc]
    cases cs with
    | nil => rfl
    | cons d cs => rw [ih (List.cons_ne_nil d cs) hcs]

/-- A line that is not empty is the only line of itself. -/
lemma lines_of_mem_lines (h : l ∈ lines cs) (hne : l ≠ []) : lines l = [l] :=
  lines_of_not_isLineBreak hne (not_isLineBreak_of_mem_lines h)

end GraphTalk.Text.Chars
