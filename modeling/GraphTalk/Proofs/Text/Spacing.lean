import Mathlib.Tactic.Common
import GraphTalk.Text.Blank

/-!
# Spacing

To trim a text and collapse its runs of blanks is to write its words with one space between them
(`normalizeBlanks_eq_joinWords`). Such a text has the words that it was made of, so the normal form
of spacing is a fixed point of taking it (`normalizeBlanks_normalizeBlanks`).
-/

namespace GraphTalk.Text

namespace Chars

variable {c d : Char} {cs : List Char}

/-! ### Words -/

/-- A word is not empty and has no blank in it. -/
def IsWord (w : List Char) : Prop := w ≠ [] ∧ ∀ c ∈ w, isBlank c = false

lemma isWord_cons {w : List Char} : IsWord (c :: w) ↔ isBlank c = false ∧ (w = [] ∨ IsWord w) := by
  constructor
  · rintro ⟨-, h⟩
    obtain ⟨hc, hw⟩ := List.forall_mem_cons.mp h
    cases w with
    | nil => exact ⟨hc, .inl rfl⟩
    | cons d w => exact ⟨hc, .inr ⟨List.cons_ne_nil d w, hw⟩⟩
  · rintro ⟨hc, rfl | hw⟩
    · exact ⟨List.cons_ne_nil c [], List.forall_mem_singleton.mpr hc⟩
    · exact ⟨List.cons_ne_nil c w, List.forall_mem_cons.mpr ⟨hc, hw.2⟩⟩

-- the equation that Lean would state of `words` takes it much longer
lemma words_cons (c : Char) (cs : List Char) :
    words (c :: cs) =
      if isBlank c then words cs
      else match cs with
        | [] => [[c]]
        | d :: _ =>
          if isBlank d then [c] :: words cs
          else match words cs with
            | [] => [[c]]
            | w :: ws => (c :: w) :: ws := by
  cases cs with
  | nil => rfl
  | cons d cs => rfl

lemma words_blank (hc : isBlank c = true) (cs : List Char) : words (c :: cs) = words cs := by
  rw [words_cons, if_pos hc]

lemma words_single (hc : isBlank c = false) : words [c] = [[c]] := by simp [words_cons, hc]

lemma words_end (hc : isBlank c = false) (hd : isBlank d = true) (cs : List Char) :
    words (c :: d :: cs) = [c] :: words cs := by
  rw [words_cons, if_neg (by simp [hc])]
  simp [hd, words_blank hd]

/-- A text that starts with a word has a first word. -/
lemma exists_words_cons (hc : isBlank c = false) (cs : List Char) :
    ∃ w ws, words (c :: cs) = (c :: w) :: ws := by
  cases cs with
  | nil => exact ⟨[], [], words_single hc⟩
  | cons d cs =>
    cases hd : isBlank d with
    | true => exact ⟨[], words cs, words_end hc hd cs⟩
    | false =>
      rw [words_cons, if_neg (by simp [hc])]
      simp only [hd, Bool.false_eq_true, if_false]
      split
      · exact ⟨[], [], rfl⟩
      · exact ⟨_, _, rfl⟩

lemma words_inside (hc : isBlank c = false) {w : List Char} {ws : List (List Char)}
    (hd : isBlank d = false) (h : words (d :: cs) = w :: ws) :
    words (c :: d :: cs) = (c :: w) :: ws := by
  rw [words_cons, if_neg (by simp [hc])]
  simp [hd, h]

lemma isWord_of_mem_words {w : List Char} (h : w ∈ words cs) : IsWord w := by
  induction cs generalizing w with
  | nil => cases h
  | cons c cs ih =>
    cases hc : isBlank c with
    | true => exact ih (by rwa [words_blank hc] at h)
    | false =>
      cases cs with
      | nil =>
        rw [words_single hc, List.mem_singleton] at h
        exact h ▸ isWord_cons.mpr ⟨hc, .inl rfl⟩
      | cons d cs =>
        cases hd : isBlank d with
        | true =>
          rw [words_end hc hd, List.mem_cons] at h
          rcases h with rfl | h
          · exact isWord_cons.mpr ⟨hc, .inl rfl⟩
          · exact ih (by rwa [words_blank hd])
        | false =>
          obtain ⟨v, vs, hwords⟩ := exists_words_cons hd cs
          rw [words_inside hc hd hwords, List.mem_cons] at h
          rw [hwords] at ih
          rcases h with rfl | h
          · exact isWord_cons.mpr ⟨hc, .inr (ih List.mem_cons_self)⟩
          · exact ih (List.mem_cons_of_mem _ h)

lemma words_of_isWord {w : List Char} (h : IsWord w) : words w = [w] := by
  induction w with
  | nil => exact absurd rfl h.1
  | cons c w ih =>
    obtain ⟨hc, rfl | hw⟩ := isWord_cons.mp h
    · exact words_single hc
    · cases w with
      | nil => exact words_single hc
      | cons d w => exact words_inside hc (isWord_cons.mp hw).1 (ih hw)

/-- A word ends where a blank follows it. -/
lemma words_append_blank {w : List Char} (h : IsWord w) (hd : isBlank d = true) (cs : List Char) :
    words (w ++ d :: cs) = w :: words cs := by
  induction w with
  | nil => exact absurd rfl h.1
  | cons c w ih =>
    obtain ⟨hc, rfl | hw⟩ := isWord_cons.mp h
    · exact words_end hc hd cs
    · cases w with
      | nil => exact words_end hc hd cs
      | cons e w => exact words_inside hc (isWord_cons.mp hw).1 (ih hw)

/-- Words with spaces between them are told apart again. -/
lemma words_intercalate {ws : List (List Char)} (h : ∀ w ∈ ws, IsWord w) :
    words ([' '].intercalate ws) = ws := by
  induction ws with
  | nil => rfl
  | cons w ws ih =>
    have hw : IsWord w := h w List.mem_cons_self
    have hws : ∀ v ∈ ws, IsWord v := fun v hv => h v (List.mem_cons_of_mem _ hv)
    cases ws with
    | nil => simpa [List.intercalate] using words_of_isWord hw
    | cons v vs =>
      rw [List.intercalate_cons_cons, List.append_assoc, List.singleton_append,
        words_append_blank hw (by decide), ih hws]

/-! ### Trimming and collapsing -/

lemma words_dropWhile (cs : List Char) : words (cs.dropWhile isBlank) = words cs := by
  induction cs with
  | nil => rfl
  | cons c cs ih =>
    cases hc : isBlank c with
    | true => rw [List.dropWhile_cons_of_pos hc, ih, words_blank hc]
    | false => rw [List.dropWhile_cons_of_neg (by simp [hc])]

lemma dropWhileEnd_cons_of_neg {p : Char → Bool} (hc : p c = false) (cs : List Char) :
    dropWhileEnd p (c :: cs) = c :: dropWhileEnd p cs := by
  simp only [dropWhileEnd, List.reverse_cons, List.dropWhile_append]
  split <;> simp_all

lemma dropWhileEnd_cons_of_pos {p : Char → Bool} (hc : p c = true) (cs : List Char) :
    dropWhileEnd p (c :: cs) =
      if dropWhileEnd p cs = [] then [] else c :: dropWhileEnd p cs := by
  simp only [dropWhileEnd, List.reverse_cons, List.dropWhile_append]
  split <;> simp_all

/-- What is left at the end of a text is nothing iff the text has no words. -/
lemma dropWhileEnd_eq_nil_iff (cs : List Char) : dropWhileEnd isBlank cs = [] ↔ words cs = [] := by
  induction cs with
  | nil => exact iff_of_true rfl rfl
  | cons c cs ih =>
    cases hc : isBlank c with
    | true =>
      rw [dropWhileEnd_cons_of_pos hc, words_blank hc, ← ih]
      simp
    | false =>
      obtain ⟨w, ws, hwords⟩ := exists_words_cons hc cs
      simp [dropWhileEnd_cons_of_neg hc, hwords]

/-- Collapsed, a text without blanks at its end is its words with spaces between them. A space
stands before them if the text starts with a blank, unless that follows another one. -/
lemma collapseFrom_dropWhileEnd (cs : List Char) :
    collapseFrom true (dropWhileEnd isBlank cs) = [' '].intercalate (words cs) ∧
      collapseFrom false (dropWhileEnd isBlank cs) =
        if cs.head?.any isBlank ∧ words cs ≠ [] then ' ' :: [' '].intercalate (words cs)
        else [' '].intercalate (words cs) := by
  induction cs with
  | nil => exact ⟨rfl, rfl⟩
  | cons c cs ih =>
    obtain ⟨ihtrue, ihfalse⟩ := ih
    cases hc : isBlank c with
    | true =>
      simp only [dropWhileEnd_cons_of_pos hc, words_blank hc, dropWhileEnd_eq_nil_iff]
      by_cases hwords : words cs = []
      · simp [hwords, collapseFrom]
      · simp [hwords, collapseFrom, hc, ihtrue]
    | false =>
      have hrest : c :: collapseFrom false (dropWhileEnd isBlank cs) =
          [' '].intercalate (words (c :: cs)) := by
        rw [ihfalse]
        cases cs with
        | nil => simp [words_single hc, show words [] = [] from rfl]
        | cons d cs =>
          cases hd : isBlank d with
          | true =>
            rw [words_end hc hd, words_blank hd]
            cases words cs <;> simp [hd]
          | false =>
            obtain ⟨w, ws, hwords⟩ := exists_words_cons hd cs
            rw [words_inside hc hd hwords, hwords]
            cases ws <;> simp [hd]
      rw [dropWhileEnd_cons_of_neg hc]
      simp [collapseFrom, hc, hrest]

/-- A text in the normal form of spacing is its words with one space between them. -/
lemma collapse_strip (cs : List Char) : collapse (strip cs) = [' '].intercalate (words cs) := by
  have hstart : (cs.dropWhile isBlank).head?.any isBlank = false := by
    cases h : cs.dropWhile isBlank with
    | nil => rfl
    | cons c rest =>
      have := List.head?_dropWhile_not isBlank cs
      simpa [h] using this
  rw [collapse, strip, (collapseFrom_dropWhileEnd _).2, words_dropWhile]
  simp [hstart]

/-- A text without blanks is in the normal form of spacing. -/
lemma collapse_strip_of_not_blank (h : ∀ c ∈ cs, isBlank c = false) : collapse (strip cs) = cs := by
  rw [collapse_strip]
  cases cs with
  | nil => rfl
  | cons c cs => simp [words_of_isWord ⟨List.cons_ne_nil c cs, h⟩]

end Chars

/-! ### Texts -/

lemma map_toList_words (s : String) : (words s).map String.toList = Chars.words s.toList := by
  rw [words, List.map_map]
  exact List.map_id'' (fun _ => String.toList_ofList) _

/-- To trim a text and collapse its blanks is to write its words with single spaces. -/
theorem normalizeBlanks_eq_joinWords (s : String) : normalizeBlanks s = joinWords (words s) := by
  refine String.toList_inj.mp ?_
  rw [normalizeBlanks, joinWords, String.toList_intercalate, map_toList_words, String.toList_ofList]
  exact Chars.collapse_strip _

@[simp] theorem words_normalizeBlanks (s : String) : words (normalizeBlanks s) = words s := by
  rw [normalizeBlanks, words, String.toList_ofList, Chars.collapse_strip,
    Chars.words_intercalate fun _ => Chars.isWord_of_mem_words, words]

lemma isWord_of_mem_words {s w : String} (h : w ∈ words s) : Chars.IsWord w.toList := by
  obtain ⟨cs, hcs, rfl⟩ := List.mem_map.mp h
  rw [String.toList_ofList]
  exact Chars.isWord_of_mem_words hcs

/-- Words with one space between them are the words of the text that they make. -/
theorem words_joinWords {ws : List String} (h : ∀ w ∈ ws, Chars.IsWord w.toList) :
    words (joinWords ws) = ws := by
  have hchars : ∀ cs ∈ ws.map String.toList, Chars.IsWord cs := by simpa using h
  rw [words, joinWords, String.toList_intercalate]
  have hspace : " ".toList = [' '] := rfl
  rw [hspace, Chars.words_intercalate hchars, List.map_map]
  exact List.map_id'' (fun _ => String.ofList_toList) _

/-- The normal form of spacing is in normal form. -/
@[simp] theorem normalizeBlanks_normalizeBlanks (s : String) :
    normalizeBlanks (normalizeBlanks s) = normalizeBlanks s := by
  rw [normalizeBlanks_eq_joinWords, words_normalizeBlanks, ← normalizeBlanks_eq_joinWords]

theorem normalizeBlanks_of_not_blank {s : String} (h : ∀ c ∈ s.toList, isBlank c = false) :
    normalizeBlanks s = s := by
  rw [normalizeBlanks, Chars.collapse_strip_of_not_blank h, String.ofList_toList]

end GraphTalk.Text
