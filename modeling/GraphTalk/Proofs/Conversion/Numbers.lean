import GraphTalk.Proofs.Conversion.Leaves
import GraphTalk.Proofs.Rdf.LexicalForms

/-!
# Numbers of literals

A comparison in a program is the identity of an entity or stated by a triple. Where a triple states
that a field of numbers has a literal, the comparison is with the number that the literal denotes,
if it denotes an integer or a double.

A literal that denotes a decimal is compared as a text (`numbers_carried`), though no condition
on groups accepts one.
-/

namespace GraphTalk.Conversion

open Rdf Sparql Knowledge

section

variable {sc : Scope Id} {settings : Settings} {lookups : Lookups Id} {q : Query}
  {keywords : List String} {p : Program} {tr : Triple} {s : String} {g : Condition}

/-- A triple has a literal as a value of a field of numbers, or of arrays of them. -/
structure HasLiteral (schema : Schema) (tr : Triple) (f : SchemaField) (l : Literal) : Prop where
  field : ∃ p, tr.predicate.property? = some p ∧ schema.field? p = some f
  numeric : f.type.element = .number
  object : tr.object = .literal l

/-- The value that a field of numbers is compared with. -/
lemma literalValue_of_number {type : FieldType} (htype : type.element = .number) (l : Literal) :
    literalValue type l = (l.number?.map Value.number).getD (.string l.text) := by
  unfold literalValue
  rw [htype]
  cases l.number? with
  | none => rfl
  | some n => rfl

/-- A literal of a field of numbers is compared as what it stands for. -/
lemma States.eq_literalValue {f : SchemaField} {l : Literal} (h : States sc tr s g)
    (hl : HasLiteral sc.settings.schema tr f l) :
    g = .atom f.name (defaultOperator f.type) (literalValue f.type l) := by
  obtain ⟨p, hp, hc⟩ := h.condition
  obtain ⟨p', hp', hf⟩ := hl.field
  obtain rfl : p = p' := Option.some.inj (hp.symm.trans hp')
  obtain ⟨f', v, hf', hv, rfl⟩ := atom_iff.mp hc
  obtain rfl : f = f' := Option.some.inj (hf.symm.trans hf')
  rw [hl.object] at hv
  rcases value_iff.mp hv with ⟨_, _, _, _, he, _, _⟩ | ⟨_, l', hobject, rfl⟩
  · cases he
  · rw [Term.literal.inj hobject]

/-- Every comparison in a program is the identity of an entity or stated by a triple. -/
lemma program_atoms (h : Returns (convertQuery settings lookups q keywords) p) :
    ∀ field op v, Condition.atom field op v ∈ p.statement.leaves →
      (∃ e, Returns (identity (queryScope settings lookups q keywords) e) (.atom field op v)) ∨
        ∃ tr ∈ q.folded, ∃ s,
          States (queryScope settings lookups q keywords) tr s (.atom field op v) := by
  intro field op v hmem
  simp only [convertQuery, returns_bind, returns_mk] at h
  obtain ⟨c, hfold, hgen⟩ := h
  obtain ⟨t', ht', hleaves⟩ := generate_leaves hgen
  obtain ⟨f, hf, hg⟩ := hleaves _ hmem
  obtain ⟨ts, ts', hclauses, hgroups, rfl⟩ := fold_iff.mp hfold
  have hn := foldClauses_nodup hclauses
  obtain ⟨t, ht, hbounded⟩ :=
    (foldHavings_bounded (List.Subset.refl q.having) hn (foldGroups_eq_ok hgroups)).2 t' ht'
  -- conditions on groups add bounds, which compare no field with a value
  have hclause : f ∈ t.filters ++ t.verifications := by
    rcases List.mem_append.mp hf with hf | hf
    · rcases hbounded.bounds f hf with hf | ⟨_, _, hbounds⟩
      · exact List.mem_append_left _ hf
      · cases hbounds
        simp [Condition.leaves] at hg
    · exact List.mem_append_right _ (hbounded.verifications ▸ hf)
  rcases foldClauses_leaves hclauses t ht f hclause _ hg with hi | ⟨tr, htr, hstates⟩
  · exact .inl ⟨_, hi⟩
  · exact .inr ⟨tr, htr, _, hstates⟩

/-- Every comparison in a program is the identity of an entity or stated by a folded triple. One
that a triple states of a literal in a field of numbers is with the number that the literal denotes,
if it denotes an integer or a double, and with its text if it denotes a decimal. So it carries the
number that the literal denotes if and only if this is not a decimal. -/
theorem numbers_carried (h : Returns (convertQuery settings lookups q keywords) p) :
    (∀ field op v, Condition.atom field op v ∈ p.statement.leaves →
      (∃ e, Returns (identity (queryScope settings lookups q keywords) e) (.atom field op v)) ∨
        ∃ tr ∈ q.folded, ∃ s,
          States (queryScope settings lookups q keywords) tr s (.atom field op v)) ∧
    ∀ tr ∈ q.folded, ∀ s g, States (queryScope settings lookups q keywords) tr s g →
      ∀ f l, HasLiteral settings.schema tr f l →
        (∀ n, l.Denotes n → g = .atom f.name (defaultOperator f.type) (.number n)) ∧
        (∀ x, l.DenotesDecimal x → g = .atom f.name (defaultOperator f.type) (.string l.text)) := by
  refine ⟨program_atoms h, ?_⟩
  intro tr _ s g hstates f l hl
  have hvalue := literalValue_of_number hl.numeric l
  constructor
  · intro n hn
    rw [hstates.eq_literalValue hl, hvalue, hn.number?_eq]
    rfl
  · intro x hx
    rw [hstates.eq_literalValue hl, hvalue, hx.number?_eq]
    rfl

end

namespace Atlas

/-- The triple that a subject has a literal as its population. -/
def inhabitants (subject : String) (l : Literal) : Triple :=
  { fact (.variable subject) "P1082" "" with object := .literal l }

/-- The things with a population. -/
def populated (l : Literal) : Query where
  kind := .select
  vars := ["x"]
  clauses := [.basic [inhabitants "x" l]]

/-- The field of populations. -/
def populationField : SchemaField := ⟨"population", "P1082", ⟨.number, false⟩⟩

lemma hasLiteral_inhabitants (l : Literal) :
    HasLiteral censusSettings.schema (inhabitants "x" l) populationField l :=
  ⟨⟨"P1082", rfl, rfl⟩, rfl, rfl⟩

/-- A population of two thousand and a half, with an exponent. -/
def thousands : Literal := .typed "+2.0005E3" "double"

/-- It is read as the double that is nearest to it. -/
theorem numbers_carried_thousands :
    Returns (convertQuery censusSettings lookups (populated thousands) [])
        ⟨.filter (baseTable "entity")
          (.atom "population" "==" (.number (.float (.ofDecimal false 20005 (-1)))))⟩ ∧
      thousands.Denotes (.float (.ofDecimal false 20005 (-1))) ∧
      States (queryScope censusSettings lookups (populated thousands) [])
        (inhabitants "x" thousands) "?x"
        (.atom "population" "==" (.number (.float (.ofDecimal false 20005 (-1))))) := by
  have h : Returns (convertQuery censusSettings lookups (populated thousands) [])
      ⟨.filter (baseTable "entity")
        (.atom "population" "==" (.number (.float (.ofDecimal false 20005 (-1)))))⟩ := rfl
  have hform : DoubleForm thousands.text.toList (.ofDecimal false 20005 (-1)) :=
    .decimal (.plus ['2', '.', '0', '0', '0', '5', 'E', '3'])
      (@FractionForm.point ['2'] ['0', '0', '0', '5'] ⟨by simp, List.all_eq_true.mp rfl⟩)
      (.marked (.inr rfl) (.digits (.none ['3']) ⟨by simp, List.all_eq_true.mp rfl⟩))
  have hdenotes : thousands.Denotes (.float (.ofDecimal false 20005 (-1))) :=
    .double (by decide) rfl hform
  have hstates : States (queryScope censusSettings lookups (populated thousands) [])
      (inhabitants "x" thousands) "?x"
      (.atom "population" "==" (literalValue populationField.type thousands)) :=
    ⟨rfl, rfl, fun htype => absurd htype.2 (by decide), "P1082", rfl, rfl⟩
  refine ⟨h, hdenotes, ?_⟩
  have hcarried := ((numbers_carried h).2 _ (by simp [Query.folded, populated]) _ _ hstates _ _
    (hasLiteral_inhabitants thousands)).1 _ hdenotes
  exact hcarried ▸ hstates

/-- A population of one and a half. -/
def oneAndAHalf : Literal := .typed "1.5" "decimal"

/-- The program compares the population with a text. -/
theorem decimal_compared_as_text :
    oneAndAHalf.DenotesDecimal (3 / 2) ∧
      HasLiteral censusSettings.schema (inhabitants "x" oneAndAHalf) populationField oneAndAHalf ∧
      Returns (convertQuery censusSettings lookups (populated oneAndAHalf) [])
        ⟨.filter (baseTable "entity") (.atom "population" "==" (.string "1.5"))⟩ := by
  have hvalue : Text.digitsValue (['1'] ++ ['5']) = 15 := rfl
  have hform : DecimalForm oneAndAHalf.text.toList _ :=
    .digits (.none ['1', '.', '5'])
      (@FractionForm.point ['1'] ['5'] ⟨by simp, List.all_eq_true.mp rfl⟩)
  refine ⟨⟨rfl, ?_⟩, hasLiteral_inhabitants oneAndAHalf, rfl⟩
  convert hform using 1
  rw [hvalue]
  norm_num

end Atlas

end GraphTalk.Conversion
