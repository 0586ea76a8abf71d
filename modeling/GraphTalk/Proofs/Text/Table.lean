import Mathlib.Tactic.Common
import GraphTalk.Text.Blank

/-!
# Tables as text

A table is written with a tab between the cells of a row and a line feed behind each row. What is
written is cut into the same rows and cells again if and only if no cell has a tab or a line feed
in it (`isTable_tableText_iff`).
-/

namespace GraphTalk.Text

/-! ### Cutting at one character -/

namespace Chars

variable {c d : Char} {cs l : List Char}

lemma splitOn_go_eq (part : List Char) :
    splitOn.go [c] part cs = cs.splitOnPPrepend (· == c) part := by
  induction cs generalizing part with
  | nil => simp [splitOn.go]
  | cons d cs ih =>
    rw [splitOn.go, List.splitOnPPrepend_cons_eq_if]
    simp [ih, eq_comm (a := c)]

lemma splitOn_singleton : splitOn [c] cs = cs.splitOn c := splitOn_go_eq []

/-- The separator is in none of the parts, and no other character is lost or added. -/
lemma mem_of_mem_splitOn (h : l ∈ cs.splitOn c) : c ∉ l ∧ l ⊆ cs := by
  induction cs generalizing l with
  | nil =>
    rw [List.splitOn_nil, List.mem_singleton] at h
    simp [h]
  | cons d cs ih =>
    rw [List.splitOn_cons_eq_if_modifyHead] at h
    obtain ⟨first, rest, hparts⟩ := List.exists_cons_of_ne_nil (List.splitOn_ne_nil c cs)
    rw [hparts] at h ih
    split at h
    · rcases List.mem_cons.mp h with rfl | h
      · simp
      · exact ⟨(ih h).1, List.subset_cons_of_subset d (ih h).2⟩
    · rename_i hd
      rcases List.mem_cons.mp h with rfl | h
      · obtain ⟨hfirst, hsub⟩ := ih List.mem_cons_self
        have hne : c ≠ d := fun heq => hd (beq_iff_eq.mpr heq.symm)
        exact ⟨List.not_mem_cons_of_ne_of_not_mem hne hfirst, List.cons_subset_cons d hsub⟩
      · obtain ⟨hl, hsub⟩ := ih (List.mem_cons_of_mem first h)
        exact ⟨hl, List.subset_cons_of_subset d hsub⟩

end Chars

variable {c : Char} {sep s : String} {ls : List String}

lemma splitOn_eq_map (hsep : sep.toList = [c]) :
    splitOn sep s = (s.toList.splitOn c).map String.ofList := by
  rw [splitOn, hsep, Chars.splitOn_singleton]

/-- Texts without a character that are joined with it are cut at it again. -/
lemma splitOn_intercalate (hsep : sep.toList = [c]) (h : ∀ l ∈ ls, c ∉ l.toList) (hne : ls ≠ []) :
    splitOn sep (String.intercalate sep ls) = ls := by
  rw [splitOn_eq_map hsep, String.toList_intercalate, hsep,
    List.splitOn_intercalate c (by simpa using h) (by simpa using hne), List.map_map]
  simp [Function.comp_def]

lemma mem_of_mem_splitOn {l : String} (hsep : sep.toList = [c]) (h : l ∈ splitOn sep s) :
    c ∉ l.toList ∧ l.toList ⊆ s.toList := by
  rw [splitOn_eq_map hsep] at h
  obtain ⟨cs, hcs, rfl⟩ := List.mem_map.mp h
  rw [String.toList_ofList]
  exact Chars.mem_of_mem_splitOn hcs

/-- A character that is not in the separator is in none of the texts that it joins if it is not in
what they are joined to. -/
lemma not_mem_intercalate (hc : c ∉ sep.toList) :
    c ∉ (String.intercalate sep ls).toList ↔ ∀ l ∈ ls, c ∉ l.toList := by
  induction ls with
  | nil => simp
  | cons l ls ih =>
    cases ls with
    | nil => simp
    | cons l' ls => simpa [hc] using fun _ => ih

/-! ### Lines -/

/-- Texts with a line feed behind each of them are those texts and an empty one with line feeds
between them. -/
lemma join_lines (ls : List String) :
    String.join (ls.map (· ++ "\n")) = String.intercalate "\n" (ls ++ [""]) := by
  induction ls with
  | nil => rfl
  | cons l ls ih =>
    rw [List.map_cons, String.join_cons, ih]
    cases ls with
    | nil => simp
    | cons l' ls => simp [String.append_assoc]

/-- Texts without line feeds, each with one behind it, are what lies between the line feeds. -/
lemma splitOn_join_lines (ls : List String) (h : ∀ l ∈ ls, '\n' ∉ l.toList) :
    splitOn "\n" (String.join (ls.map (· ++ "\n"))) = ls ++ [""] := by
  rw [join_lines]
  refine splitOn_intercalate (c := '\n') rfl ?_ (by simp)
  simpa [or_imp, forall_and] using h

/-! ### Tables -/

/-- A text that can stand in a cell: it has no tab and no line feed. -/
def IsCell (s : String) : Prop := '\t' ∉ s.toList ∧ '\n' ∉ s.toList

instance (s : String) : Decidable (IsCell s) := instDecidableAnd

/-- Rows of cells as text. -/
def tableText (rows : List (List String)) : String :=
  String.join ((rows.map (String.intercalate "\t")).map (· ++ "\n"))

/-- A text is cut into rows at line feeds, one of which ends it, and each row into cells at
tabs. -/
def IsTable (text : String) (rows : List (List String)) : Prop :=
  ∃ lines, splitOn "\n" text = lines ++ [""] ∧ lines.map (splitOn "\t") = rows

/-- A text is cut in one way only. -/
lemma IsTable.unique {text : String} {rows rows' : List (List String)} (h : IsTable text rows)
    (h' : IsTable text rows') : rows = rows' := by
  obtain ⟨lines, hlines, rfl⟩ := h
  obtain ⟨lines', hlines', rfl⟩ := h'
  rw [List.append_cancel_right (hlines.symm.trans hlines')]

lemma IsTable.isCell {text : String} {rows : List (List String)} (h : IsTable text rows) :
    ∀ row ∈ rows, ∀ cell ∈ row, IsCell cell := by
  obtain ⟨lines, hlines, rfl⟩ := h
  simp only [List.forall_mem_map]
  intro line hline cell hcell
  obtain ⟨htab, hsub⟩ := mem_of_mem_splitOn rfl hcell
  have hfeed : '\n' ∉ line.toList :=
    (mem_of_mem_splitOn rfl (hlines ▸ List.mem_append_left _ hline)).1
  exact ⟨htab, fun hmem => hfeed (hsub hmem)⟩

/-- A table is read back as it was written exactly if all its cells are such. -/
theorem isTable_tableText_iff {rows : List (List String)} (hne : ∀ row ∈ rows, row ≠ []) :
    IsTable (tableText rows) rows ↔ ∀ row ∈ rows, ∀ cell ∈ row, IsCell cell := by
  refine ⟨IsTable.isCell, fun h => ⟨rows.map (String.intercalate "\t"), ?_, ?_⟩⟩
  · refine splitOn_join_lines _ (List.forall_mem_map.mpr fun row hrow => ?_)
    exact (not_mem_intercalate (by decide)).mpr fun cell hcell => (h row hrow cell hcell).2
  · rw [List.map_map]
    refine (List.map_congr_left fun row hrow => ?_).trans (List.map_id rows)
    exact splitOn_intercalate rfl (fun cell hcell => (h row hrow cell hcell).1) (hne row hrow)

/-! ### Cells -/

variable {t : String}

@[simp] lemma isCell_append : IsCell (s ++ t) ↔ IsCell s ∧ IsCell t := by
  simp only [IsCell, String.toList_append, List.mem_append, not_or]
  exact and_and_and_comm

lemma isCell_intercalate (hsep : IsCell sep) :
    IsCell (String.intercalate sep ls) ↔ ∀ l ∈ ls, IsCell l := by
  simp only [IsCell, not_mem_intercalate hsep.1, not_mem_intercalate hsep.2, ← forall_and]

/-- A text with none but printing characters is a cell. -/
lemma isCell_of_forall {p : Char → Bool} (htab : p '\t' = false) (hfeed : p '\n' = false)
    (h : ∀ c ∈ s.toList, p c = true) : IsCell s :=
  ⟨fun hmem => by simp [h _ hmem] at htab, fun hmem => by simp [h _ hmem] at hfeed⟩

end GraphTalk.Text
