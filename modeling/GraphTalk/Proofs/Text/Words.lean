import GraphTalk.Proofs.Text.Spacing
import GraphTalk.Proofs.Text.Trimming

/-!
# Words

The words of a text are told by its shape: words, blanks between any two of them, and blanks that
may stand at both ends (`Spells`). A text has this shape for exactly one list of words
(`words_eq_iff`), so two texts have one normal form of spacing exactly if their words are the same
(`normalizeBlanks_eq_iff`).
-/

namespace GraphTalk.Text

namespace Chars

/-- A text is made of words with blanks between them, and has blanks or nothing at its ends. -/
inductive Spells : List Char → List (List Char) → Prop where
  | blanks {cs : List Char} (h : Blanks cs) : Spells cs []
  | word {before w rest : List Char} {ws : List (List Char)} (hbefore : Blanks before)
      (hw : IsWord w) (hrest : ∀ c ∈ rest.head?, isBlank c = true) (h : Spells rest ws) :
      Spells (before ++ w ++ rest) (w :: ws)

variable {c d : Char} {cs before w : List Char} {ws : List (List Char)}

lemma Blanks.cons (hc : isBlank c = true) (h : Blanks cs) : Blanks (c :: cs) :=
  List.forall_mem_cons.mpr ⟨hc, h⟩

lemma isWord_singleton (hc : isBlank c = false) : IsWord [c] := isWord_cons.mpr ⟨hc, .inl rfl⟩

/-! ### The shape tells the words -/

lemma words_append_left (h : Blanks before) (cs : List Char) : words (before ++ cs) = words cs := by
  induction before with
  | nil => rfl
  | cons c before ih =>
    obtain ⟨hc, hbefore⟩ := List.forall_mem_cons.mp h
    rw [List.cons_append, words_blank hc, ih hbefore]

lemma words_of_blanks (h : Blanks cs) : words cs = [] := by
  rw [← List.append_nil cs, words_append_left h]
  rfl

lemma Spells.words_eq (h : Spells cs ws) : words cs = ws := by
  induction h with
  | blanks h => exact words_of_blanks h
  | @word before w rest ws hbefore hw hrest _ ih =>
    rw [List.append_assoc, words_append_left hbefore]
    cases rest with
    | nil => rw [List.append_nil, words_of_isWord hw, ← ih, words_of_blanks blanks_nil]
    | cons d rest =>
      have hd : isBlank d = true := hrest d rfl
      rw [words_append_blank hw hd, ← ih, words_blank hd]

/-! ### Every text has the shape -/

lemma Spells.cons_blank (hc : isBlank c = true) (h : Spells cs ws) : Spells (c :: cs) ws := by
  cases h with
  | blanks h => exact .blanks (h.cons hc)
  | word hbefore hw hrest h => exact .word (hbefore.cons hc) hw hrest h

/-- A character before a blank, or at the end, is a word of its own. -/
lemma Spells.cons_end (hc : isBlank c = false) (hcs : ∀ d ∈ cs.head?, isBlank d = true)
    (h : Spells cs ws) : Spells (c :: cs) ([c] :: ws) :=
  .word blanks_nil (isWord_singleton hc) hcs h

/-- A character before another one that is not blank belongs to the word of it. -/
lemma Spells.cons_inside (hc : isBlank c = false) (hd : isBlank d = false)
    (h : Spells (d :: cs) ws) :
    ∃ w ws', ws = w :: ws' ∧ Spells (c :: d :: cs) ((c :: w) :: ws') := by
  generalize htext : d :: cs = text at h
  cases h with
  | blanks h =>
    subst htext
    rw [(List.forall_mem_cons.mp h).1] at hd
    cases hd
  | @word before w rest ws' hbefore hw hrest h =>
    cases before with
    | nil => exact ⟨w, ws', rfl, .word blanks_nil (isWord_cons.mpr ⟨hc, .inr hw⟩) hrest h⟩
    | cons b before =>
      obtain ⟨rfl, -⟩ := List.cons.inj htext
      rw [(List.forall_mem_cons.mp hbefore).1] at hd
      cases hd

/-- A text is made of its words. -/
lemma spells_words (cs : List Char) : Spells cs (words cs) := by
  induction cs with
  | nil => exact .blanks blanks_nil
  | cons c cs ih =>
    cases hc : isBlank c with
    | true =>
      rw [words_blank hc]
      exact ih.cons_blank hc
    | false =>
      cases cs with
      | nil =>
        rw [words_single hc]
        exact .cons_end hc (by simp) (.blanks blanks_nil)
      | cons d cs =>
        cases hd : isBlank d with
        | true =>
          rw [words_end hc hd, ← words_blank hd]
          exact ih.cons_end hc (by simpa using hd)
        | false =>
          obtain ⟨w, ws, hwords, hspells⟩ := ih.cons_inside hc hd
          rw [words_inside hc hd hwords]
          exact hspells

/-- The words of a text are those that it is made of. -/
lemma words_eq_iff : words cs = ws ↔ Spells cs ws := by
  constructor
  · rintro rfl
    exact spells_words cs
  · exact Spells.words_eq

end Chars

/-! ### Texts -/

/-- A text is made of words with blanks between them, and has blanks or nothing at its ends. -/
def Spells (s : String) (ws : List String) : Prop :=
  Chars.Spells s.toList (ws.map String.toList)

lemma words_eq_iff {s : String} {ws : List String} : words s = ws ↔ Spells s ws := by
  rw [Spells, ← Chars.words_eq_iff, ← map_toList_words]
  exact (List.map_inj_right fun _ _ => String.toList_inj.mp).symm

/-- Texts have one normal form of spacing exactly if they have the same words. -/
lemma normalizeBlanks_eq_iff {s t : String} :
    normalizeBlanks s = normalizeBlanks t ↔ words s = words t := by
  constructor
  · intro h
    rw [← words_normalizeBlanks s, h, words_normalizeBlanks]
  · intro h
    rw [normalizeBlanks_eq_joinWords, h, ← normalizeBlanks_eq_joinWords]

end GraphTalk.Text
