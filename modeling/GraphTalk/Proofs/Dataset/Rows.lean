import GraphTalk.Proofs.Dataset.Attempts
import GraphTalk.Proofs.Program.Texts
import GraphTalk.Proofs.Text.Spacing

/-!
# The rows of the output

The output of a run is meant to be a table with one row for every example that was converted: its
id, its wording with single spaces, and its program. It is one exactly if no name and no quoted text
of a program has a tab or a line feed in it (`output_isTable_iff`): the wording is rid of them, but
the program is written as it is.
-/

namespace GraphTalk.Dataset

open Conversion Knowledge Text

/-- The cells that an example is to have in the output after an attempt at its program, if it was
converted. -/
def cells? (e : Example) : Attempt → Option (List String)
  | .ok p => e.utterance.asText.toOption.map fun u => [e.id, normalizeBlanks u, p.render]
  | .error _ => none

/-- The rows that examples are to have in the output after attempts at their programs. -/
def expectedRows (xs : List (Example × Attempt)) : List (List String) :=
  xs.filterMap fun x => cells? x.1 x.2

/-! ### Rows as text -/

lemma rowText_eq (id utterance program : String) :
    rowText id utterance program =
      String.intercalate "\t" [id, utterance, program] ++ "\n" := by
  simp [rowText, String.append_assoc]

lemma outputText_cons (o : Outcome) (os : List Outcome) :
    outputText (o :: os) = outputText [o] ++ outputText os := by
  cases o <;> simp [outputText]

lemma tableText_append (rows rows' : List (List String)) :
    tableText (rows ++ rows') = tableText rows ++ tableText rows' := by
  simp [tableText, String.join_append]

variable {e : Example} {r : Attempt} {xs : List (Example × Attempt)} {o : Outcome}
  {os : List Outcome}

lemma outputText_of_settle (h : settle e r = .ok o) :
    outputText [o] = tableText (cells? e r).toList := by
  cases r with
  | error f =>
    cases h
    rfl
  | ok p =>
    obtain ⟨u, hu, rfl⟩ := settle_ok_eq_ok_iff.mp h
    simp [outputText, convertedRow, rowText_eq, tableText, cells?, hu, Document.asText,
      Except.toOption, normalizeBlanks_eq_joinWords]

lemma expectedRows_cons (x : Example × Attempt) (xs : List (Example × Attempt)) :
    expectedRows (x :: xs) = (cells? x.1 x.2).toList ++ expectedRows xs := by
  cases h : cells? x.1 x.2 <;> simp [expectedRows, h]

/-- What is written of outcomes are the rows that the examples are to have. -/
lemma outputText_of_settleAll (h : settleAll xs = .ok os) :
    outputText os = tableText (expectedRows xs) := by
  rw [settleAll_eq_ok_iff] at h
  induction h with
  | nil => rfl
  | @cons x o xs os hx _ ih =>
    rw [outputText_cons, outputText_of_settle hx, ih, ← tableText_append, expectedRows_cons]

/-! ### Rows as cells -/

/-- A text whose blanks are single spaces has no tab and no line feed. -/
lemma isCell_normalizeBlanks (s : String) : IsCell (normalizeBlanks s) := by
  rw [normalizeBlanks_eq_joinWords, joinWords, isCell_intercalate (by decide)]
  intro w hw
  obtain ⟨cs, hcs, rfl⟩ := List.mem_map.mp hw
  refine isCell_of_forall (p := fun c => !isBlank c) (by decide) (by decide) fun c hc => ?_
  rw [String.toList_ofList] at hc
  simp [(Chars.isWord_of_mem_words hcs).2 c hc]

/-- The cells of an example with a proper id are such exactly if those of its program are. -/
lemma forall_cells?_iff (hid : IsCell e.id) (hu : ∃ u, e.utterance = .text u) :
    (∀ row ∈ (cells? e r).toList, ∀ cell ∈ row, IsCell cell) ↔
      ∀ p, r = .ok p → AreCells p.names p.quoted := by
  obtain ⟨u, hu⟩ := hu
  cases r with
  | error f => simp [cells?]
  | ok p =>
    simp [cells?, hu, Document.asText, Except.toOption, hid, isCell_normalizeBlanks,
      p.isCell_render_iff]

/-- All cells are such exactly if those of all programs are. -/
lemma forall_expectedRows_iff
    (h : ∀ x ∈ xs, IsCell x.1.id ∧ ∃ u, x.1.utterance = .text u) :
    (∀ row ∈ expectedRows xs, ∀ cell ∈ row, IsCell cell) ↔
      ∀ x ∈ xs, ∀ p, x.2 = .ok p → AreCells p.names p.quoted := by
  induction xs with
  | nil => simp [expectedRows]
  | cons x xs ih =>
    obtain ⟨⟨hid, hu⟩, hxs⟩ := List.forall_mem_cons.mp h
    rw [expectedRows_cons, List.forall_mem_append, List.forall_mem_cons, ih hxs,
      forall_cells?_iff hid hu]

lemma ne_nil_of_mem_expectedRows : ∀ row ∈ expectedRows xs, row ≠ [] := by
  intro row hrow
  obtain ⟨⟨e, r⟩, -, hcells⟩ := List.mem_filterMap.mp hrow
  cases r with
  | error f => cases hcells
  | ok p =>
    obtain ⟨u, -, rfl⟩ := Option.map_eq_some_iff.mp hcells
    simp

/-- Examples with proper ids and with wordings are all settled. What is written of them is the table
of the rows that they are to have, one for each example that is converted, exactly if no name and no
quoted text of a program has a tab or a line feed in it. Of well-formed programs only the texts that
are quoted matter. -/
theorem output_isTable_iff {S : Type} (settings : Settings) (source : Source (StateM S)) (s : S)
    (es : List Example) (h : ∀ e ∈ es, IsCell e.id ∧ ∃ u, e.utterance = .text u) :
    let xs := attempts settings source s es
    ∃ os, ((convertAll settings source es).run s).1 = .ok os ∧
      (IsTable (outputText os) (expectedRows xs) ↔
        ∀ x ∈ xs, ∀ p, x.2 = .ok p → AreCells p.names p.quoted) ∧
      ((∀ x ∈ xs, ∀ p, x.2 = .ok p → p.WellFormed) →
        (IsTable (outputText os) (expectedRows xs) ↔
          ∀ x ∈ xs, ∀ p, x.2 = .ok p → ∀ t ∈ p.quoted, IsCell t)) := by
  intro xs
  have hxs : ∀ x ∈ xs, IsCell x.1.id ∧ ∃ u, x.1.utterance = .text u :=
    fun x hx => h x.1 (exists_of_mem_attempts hx).1
  obtain ⟨os, hos⟩ : ∃ os, settleAll xs = .ok os :=
    exists_settleAll_iff.mpr fun x hx => .inl (hxs x hx).2
  have htable : IsTable (outputText os) (expectedRows xs) ↔
      ∀ x ∈ xs, ∀ p, x.2 = .ok p → AreCells p.names p.quoted := by
    rw [outputText_of_settleAll hos, isTable_tableText_iff ne_nil_of_mem_expectedRows,
      forall_expectedRows_iff hxs]
  refine ⟨os, by rw [convertAll_run, hos], htable, fun hformed => htable.trans ?_⟩
  refine forall₄_congr fun x hx p hp => ?_
  exact p.isCell_render_iff.symm.trans (hformed x hx p hp).isCell_render_iff

namespace Atlas

open Conversion.Atlas Rdf Sparql

/-- The question for all countries, over two lines and with a blank too many. -/
theorem output_isTable_countries :
    let e := countries (.text "all\n countries ")
    (∀ e' ∈ [e], IsCell e'.id ∧ ∃ u, e'.utterance = .text u) ∧
      ∃ os, ((convertAll settings source [e]).run ()).1 = .ok os ∧
        IsTable (outputText os) [["1", "all countries", "@org.wikidata.country();"]] := by
  intro e
  have he : ∀ e' ∈ [e], IsCell e'.id ∧ ∃ u, e'.utterance = .text u :=
    List.forall_mem_singleton.mpr ⟨by decide, _, rfl⟩
  obtain ⟨os, hos, htable, -⟩ := output_isTable_iff settings source () [e] he
  have hrows : expectedRows (attempts settings source () [e]) =
      [["1", "all countries", "@org.wikidata.country();"]] := by
    rw [attempts_countries]
    rfl
  rw [hrows, attempts_countries] at htable
  refine ⟨he, os, hos, htable.mpr ?_⟩
  simp only [List.forall_mem_singleton, Except.ok.injEq]
  rintro p rfl
  constructor <;> decide

/-- The schema of an official name. -/
def namedSettings : Settings where
  schema :=
    { tables := [("Q6256", "country")]
      fields := [("P1448", ⟨"official_name", "P1448", ⟨.string, false⟩⟩)] }

/-- A question for a name that has a tab in it. -/
def tabbed : Example where
  id := "1"
  utterance := .text "Which country is called a b?"
  sparql := .text "SELECT ?x WHERE \x7b ?x wdt:P1448 \"a\\tb\" \x7d"
  keywords := [.text "countries"]

/-- The row of the question for a name with a tab in it. -/
def tabbedRow : List String :=
  ["1", "Which country is called a b?",
    "@org.wikidata.entity() filter official_name == \"a\tb\";"]

/-- The cells that are read off the row. -/
def brokenRow : List String :=
  ["1", "Which country is called a b?", "@org.wikidata.entity() filter official_name == \"a",
    "b\";"]

lemma attempts_tabbed :
    attempts namedSettings source () [tabbed] =
      [(tabbed, .ok ⟨.filter (baseTable "entity")
        (.atom "official_name" "==" (.string "a\tb"))⟩)] := by
  have hparse : Query.parse defaultNamespaces "SELECT ?x WHERE \x7b ?x wdt:P1448 \"a\\tb\" \x7d" =
      .ok { kind := .select, vars := ["x"]
            clauses := [.basic [
              { subject := .variable "x"
                predicate := .path (.iri (propertyNamespace ++ "P1448"))
                object := .literal ⟨"a\tb", none, none⟩ }]] } := by
    cbv
  have hprogram : program namedSettings source.lookups tabbed =
      pure ⟨.filter (baseTable "entity") (.atom "official_name" "==" (.string "a\tb"))⟩ := by
    simp only [program, tabbed, readQuery, hparse]
    rfl
  rw [attempts, attempt, hprogram]
  rfl

/-- A name with a tab in it makes a row of four cells, where three are expected. -/
theorem output_not_isTable_tabbed :
    IsCell tabbed.id ∧ (∃ u, tabbed.utterance = .text u) ∧
      expectedRows (attempts namedSettings source () [tabbed]) = [tabbedRow] ∧
      ∃ os, ((convertAll namedSettings source [tabbed]).run ()).1 = .ok os ∧
        IsTable (outputText os) [brokenRow] ∧ ¬ IsTable (outputText os) [tabbedRow] := by
  obtain ⟨os, hos⟩ : ∃ os, settleAll (attempts namedSettings source () [tabbed]) = .ok os := by
    rw [attempts_tabbed]
    exact ⟨_, rfl⟩
  have hrows : expectedRows (attempts namedSettings source () [tabbed]) = [tabbedRow] := by
    rw [attempts_tabbed]
    rfl
  have htable : IsTable (outputText os) [brokenRow] := by
    have hsame : tableText [tabbedRow] = tableText [brokenRow] := rfl
    rw [outputText_of_settleAll hos, hrows, hsame]
    exact (isTable_tableText_iff (by decide)).mpr (by decide)
  exact ⟨by decide, ⟨_, rfl⟩, hrows, os, by rw [convertAll_run, hos], htable,
    fun h => absurd (h.unique htable) (by decide)⟩

end Atlas

end GraphTalk.Dataset
