import GraphTalk.Proofs.Number.Characters
import GraphTalk.Proofs.Program.WellFormed
import GraphTalk.Proofs.Text.Table

/-!
# The texts in a program

A program holds names, which stand in its text as they are, and texts, which are quoted there. The
text of a program can stand in a cell of a table if and only if all of them can
(`Program.isCell_render_iff`): quoting leaves tabs and line feeds as they are, and nothing else that
is written has any. The names of a well-formed program always can.
-/

namespace GraphTalk

open Text

/-! ### Names and quoted texts -/

/-- The names in a value: the type of an entity. -/
def Value.names : Value → List String
  | .entity _ type _ => [type]
  | _ => []

/-- The texts that are quoted in a value. -/
def Value.quoted : Value → List String
  | .entity code _ display => [code, display]
  | .string text => [text]
  | .number _ => []

mutual

/-- The fields, operators, functions and types in a condition. -/
def Condition.names : Condition → List String
  | .atom field operator value => field :: operator :: value.names
  | .all operands => Condition.namesAll operands
  | .any operands => Condition.namesAll operands
  | .aggregate function field operator _ => [function, field, operator]

/-- The names in conditions. -/
def Condition.namesAll : List Condition → List String
  | [] => []
  | c :: cs => c.names ++ Condition.namesAll cs

end

mutual

/-- The texts that are quoted in a condition. -/
def Condition.quoted : Condition → List String
  | .atom _ _ value => value.quoted
  | .all operands => Condition.quotedAll operands
  | .any operands => Condition.quotedAll operands
  | .aggregate _ _ _ _ => []

/-- The texts that are quoted in conditions. -/
def Condition.quotedAll : List Condition → List String
  | [] => []
  | c :: cs => c.quoted ++ Condition.quotedAll cs

end

/-- The tables, classes, fields, operators, functions, directions and types in a table
expression. -/
def TableExpression.names : TableExpression → List String
  | .invocation domain className => [domain, className]
  | .filter e c => e.names ++ c.names
  | .projection e fields => e.names ++ fields
  | .aggregation e function field => function :: e.names ++ field.toList
  | .question e c => e.names ++ c.names
  | .sort e field direction => field :: direction :: e.names
  | .index e _ => e.names

/-- The texts that are quoted in a table expression. -/
def TableExpression.quoted : TableExpression → List String
  | .invocation _ _ => []
  | .filter e c => e.quoted ++ c.quoted
  | .projection e _ => e.quoted
  | .aggregation e _ _ => e.quoted
  | .question e c => e.quoted ++ c.quoted
  | .sort e _ _ => e.quoted
  | .index e _ => e.quoted

/-- The names in a program. -/
def Program.names (p : Program) : List String := p.statement.names

/-- The texts that are quoted in a program. -/
def Program.quoted (p : Program) : List String := p.statement.quoted

/-! ### What is written -/

/-- All names and all texts that are quoted can stand in a cell. -/
def AreCells (names quoted : List String) : Prop :=
  (∀ n ∈ names, IsCell n) ∧ ∀ t ∈ quoted, IsCell t

lemma areCells_append {ns ns' ts ts' : List String} :
    AreCells (ns ++ ns') (ts ++ ts') ↔ AreCells ns ts ∧ AreCells ns' ts' := by
  simp only [AreCells, List.forall_mem_append]
  exact and_and_and_comm

lemma areCells_cons {n : String} {ns ts : List String} :
    AreCells (n :: ns) ts ↔ IsCell n ∧ AreCells ns ts := by
  rw [AreCells, List.forall_mem_cons, and_assoc]
  rfl

lemma areCells_append_names {ns ns' ts : List String} :
    AreCells (ns ++ ns') ts ↔ AreCells ns ts ∧ ∀ n ∈ ns', IsCell n := by
  rw [AreCells, List.forall_mem_append, and_right_comm]
  rfl

lemma mem_quoteText {c : Char} {s : String} (hquote : c ≠ '"') (hslash : c ≠ '\\') :
    c ∈ (quoteText s).toList ↔ c ∈ s.toList := by
  have hescape : ∀ d, c ∈ quoteText.escape d ↔ c = d := by
    intro d
    unfold quoteText.escape
    split <;> simp [hslash]
  simp [quoteText, hescape, hquote]

/-- Quotes and backslashes are all that is added to a text between quotes. -/
lemma isCell_quoteText {s : String} : IsCell (quoteText s) ↔ IsCell s := by
  simp [IsCell, mem_quoteText]

lemma isCell_of_numeric {s : String} (h : Numeric s) : IsCell s :=
  isCell_of_forall (by decide) (by decide) h

lemma isCell_bracketed {needed : Bool} {s : String} :
    IsCell (bracketed needed s) ↔ IsCell s := by
  cases needed with
  | false => rfl
  | true => simp +decide [bracketed]

lemma Value.isCell_render_iff (v : Value) : IsCell v.render ↔ AreCells v.names v.quoted := by
  cases v with
  | entity code type display =>
    simp +decide [render, names, quoted, AreCells, isCell_quoteText, and_left_comm, and_assoc]
  | string text => simp [render, names, quoted, AreCells, isCell_quoteText]
  | number n => simp [render, names, quoted, AreCells, isCell_of_numeric n.numeric_render]

mutual

lemma Condition.isCell_render_iff (c : Condition) :
    IsCell c.render ↔ AreCells c.names c.quoted := by
  cases c with
  | atom field operator value =>
    rw [render, names, quoted, areCells_cons, areCells_cons, ← value.isCell_render_iff]
    split
    · rename_i hop
      obtain rfl := beq_iff_eq.mp hop
      simp +decide
    · simp +decide [and_assoc]
  | all cs =>
    rw [render, isCell_intercalate (by decide)]
    exact Condition.isCell_renderOperands_iff cs
  | any cs =>
    rw [render, isCell_intercalate (by decide)]
    exact Condition.isCell_renderOperands_iff cs
  | aggregate function field operator n =>
    simp +decide [render, names, quoted, AreCells, isCell_of_numeric n.numeric_render, and_assoc]

lemma Condition.isCell_renderOperands_iff (cs : List Condition) :
    (∀ s ∈ renderOperands cs, IsCell s) ↔ AreCells (namesAll cs) (quotedAll cs) := by
  cases cs with
  | nil => simp [renderOperands, namesAll, quotedAll, AreCells]
  | cons c cs =>
    rw [renderOperands, List.forall_mem_cons, isCell_bracketed, c.isCell_render_iff,
      Condition.isCell_renderOperands_iff cs, namesAll, quotedAll, areCells_append]

end

lemma TableExpression.isCell_render_iff (e : TableExpression) :
    IsCell e.render ↔ AreCells e.names e.quoted := by
  induction e with
  | invocation domain className =>
    simp +decide [render, names, quoted, AreCells, and_comm]
  | filter e c ih =>
    rw [names, quoted, areCells_append, ← ih, ← c.isCell_render_iff]
    simp +decide [render, isCell_bracketed]
  | projection e fields ih =>
    rw [names, quoted, areCells_append_names, ← ih]
    simp +decide [render, isCell_bracketed, isCell_intercalate, and_comm]
  | aggregation e function field ih =>
    rw [names, quoted, List.cons_append, areCells_cons, areCells_append_names, ← ih, render]
    -- an empty name is left out, and can stand anywhere
    rcases field with _ | f
    · simp +decide [fieldOrNone]
    · by_cases hf : f = ""
      · subst hf
        simp +decide [fieldOrNone]
      · simp +decide [fieldOrNone, hf, isCell_bracketed, and_comm, and_assoc]
  | question e c ih =>
    rw [names, quoted, areCells_append, ← ih, ← c.isCell_render_iff]
    simp +decide [render, isCell_bracketed, and_comm]
  | sort e field direction ih =>
    rw [names, quoted, areCells_cons, areCells_cons, ← ih]
    simp +decide [render, isCell_bracketed, and_assoc]
  | index e limit ih =>
    have hlimit : IsCell (toString limit) := isCell_of_numeric (numeric_int limit)
    rw [names, quoted, ← ih, render, isCell_append, isCell_append, isCell_append, isCell_bracketed]
    exact ⟨fun h => h.1.1.1, fun h => ⟨⟨⟨h, by decide⟩, hlimit⟩, by decide⟩⟩

/-- The text of a program can stand in a cell exactly if its names and its quoted texts can. -/
theorem Program.isCell_render_iff (p : Program) :
    IsCell p.render ↔ AreCells p.names p.quoted := by
  rw [names, quoted, ← p.statement.isCell_render_iff]
  simp +decide [render]

/-! ### Well-formed programs -/

lemma IsWord.isCell {p : Char → Bool} {s : String} (htab : p '\t' = false) (hfeed : p '\n' = false)
    (h : IsWord p s) : IsCell s := isCell_of_forall htab hfeed h.2

lemma IsName.isCell {s : String} (h : IsName s) : IsCell s :=
  IsWord.isCell (by decide) (by decide) h

lemma isCell_of_mem_comparisons {s : String} (h : s ∈ comparisons) : IsCell s := by
  revert s
  decide

lemma isCell_of_mem_aggregateFunctions {s : String} (h : s ∈ aggregateFunctions) : IsCell s := by
  revert s
  decide

lemma isCell_of_mem_directions {s : String} (h : s ∈ directions) : IsCell s := by
  revert s
  decide

lemma Value.WellFormed.isCell_names {v : Value} (h : v.WellFormed) : ∀ n ∈ v.names, IsCell n := by
  cases v with
  | entity code type display =>
    simpa [names] using IsWord.isCell (by decide) (by decide) h
  | string text => simp [names]
  | number n => simp [names]

lemma Condition.mem_namesAll {n : String} {cs : List Condition} :
    n ∈ namesAll cs ↔ ∃ c ∈ cs, n ∈ c.names := by
  induction cs with
  | nil => simp [namesAll]
  | cons c cs ih => simp [namesAll, ih]

lemma Condition.WellFormed.isCell_names {c : Condition} (h : c.WellFormed) :
    ∀ n ∈ c.names, IsCell n := by
  induction h with
  | @atom field operator value hf hop hv =>
    have hoperator : IsCell operator := by
      rcases hop with rfl | hop
      · decide
      · exact isCell_of_mem_comparisons hop
    exact List.forall_mem_cons.mpr ⟨hf.isCell, List.forall_mem_cons.mpr
      ⟨hoperator, hv.isCell_names⟩⟩
  | all _ _ ih =>
    intro n hn
    obtain ⟨c, hc, hn⟩ := mem_namesAll.mp hn
    exact ih c hc n hn
  | any _ _ ih =>
    intro n hn
    obtain ⟨c, hc, hn⟩ := mem_namesAll.mp hn
    exact ih c hc n hn
  | aggregate hfn hf hop =>
    simp [names, isCell_of_mem_aggregateFunctions hfn, hf.isCell, isCell_of_mem_comparisons hop]

lemma TableExpression.WellFormed.isCell_names {e : TableExpression} (h : e.WellFormed) :
    ∀ n ∈ e.names, IsCell n := by
  induction h with
  | invocation hd hc =>
    have hclass := IsWord.isCell (p := isClassChar) (by decide) (by decide) hc
    simp [names, hd.isCell, hclass]
  | filter _ hc ih => exact List.forall_mem_append.mpr ⟨ih, hc.isCell_names⟩
  | projection _ _ hf ih => exact List.forall_mem_append.mpr ⟨ih, fun f hmem => (hf f hmem).isCell⟩
  | aggregation _ hfn hf ih =>
    refine List.forall_mem_append.mpr ⟨List.forall_mem_cons.mpr
      ⟨isCell_of_mem_aggregateFunctions hfn, ih⟩, fun f hmem => ?_⟩
    exact (hf f (Option.mem_toList.mp hmem)).isCell
  | question _ hc ih => exact List.forall_mem_append.mpr ⟨ih, hc.isCell_names⟩
  | sort _ hf hd ih =>
    exact List.forall_mem_cons.mpr ⟨hf.isCell, List.forall_mem_cons.mpr
      ⟨isCell_of_mem_directions hd, ih⟩⟩
  | index _ _ ih => exact ih

/-- Of a well-formed program only the texts that are quoted matter. -/
theorem Program.WellFormed.isCell_render_iff {p : Program} (h : p.WellFormed) :
    IsCell p.render ↔ ∀ t ∈ p.quoted, IsCell t :=
  p.isCell_render_iff.trans (and_iff_right (TableExpression.WellFormed.isCell_names h))

end GraphTalk
