import Mathlib.Tactic.Common
import GraphTalk.Sparql.Query

/-!
# Conjuncts of conditions on groups

The expressions that an expression is the conjunction of, however the conjunctions in it are nested.
There is one condition on groups for each of them, from left to right. A bound on a count is the one
shape of them that a conversion knows.
-/

namespace GraphTalk.Sparql

open Rdf

/-! ### Conjuncts -/

mutual

/-- The expressions that an expression is the conjunction of, from left to right. -/
def Expression.conjuncts : Expression → List Expression
  | .both first others => first.conjuncts ++ conjunctsOf others
  | e => [e]

/-- The conjuncts of several expressions. -/
def conjunctsOf : List Expression → List Expression
  | [] => []
  | e :: es => e.conjuncts ++ conjunctsOf es

end

variable {aggregates : List Aggregate}

@[simp] lemma havingLeaf_expression (e : Expression) :
    (havingLeaf aggregates e).expression = e := by
  unfold havingLeaf
  split
  · split <;> rfl
  · split <;> rfl
  · rfl

mutual

/-- There is one condition for each conjunct. -/
lemma havingConditions_eq (e : Expression) :
    havingConditions aggregates e = e.conjuncts.map (havingLeaf aggregates) := by
  cases e with
  | both first others =>
    rw [havingConditions, Expression.conjuncts, List.map_append, havingConditions_eq first,
      havingAll_eq others]
  | _ => simp [havingConditions, Expression.conjuncts]

lemma havingAll_eq (es : List Expression) :
    havingAll aggregates es = (conjunctsOf es).map (havingLeaf aggregates) := by
  cases es with
  | nil => simp [havingAll, conjunctsOf]
  | cons e es =>
    rw [havingAll, conjunctsOf, List.map_append, havingConditions_eq e, havingAll_eq es]

end

lemma havingConditions_expressions (e : Expression) :
    (havingConditions aggregates e).map HavingCondition.expression = e.conjuncts := by
  rw [havingConditions_eq, List.map_map]
  apply List.map_id''
  intro leaf
  exact havingLeaf_expression leaf

/-! ### Bounds on counts -/

/-- The comparisons that a bound on a count is written with, and what they become: strict bounds
become weak ones. -/
def boundOperators : List (String × String) :=
  [(">", ">="), (">=", ">="), ("<", "<="), ("<=", "<="), ("=", "==")]

/-- An expression compares the number of values of a variable with a number. What is counted is held
by a variable of the expression, as the aggregates say. -/
inductive BoundsCount (aggregates : List Aggregate) :
    Expression → String → String → Number → Prop where
  | compare {name v op bound : String} {a : Aggregate} {l : Literal} {n : Number}
      (ha : resultOf? aggregates name = some a) (hkind : a.kind = .count)
      (harg : a.argument? = some v) (hop : (op, bound) ∈ boundOperators)
      (hn : l.number? = some n) :
      BoundsCount aggregates (.compare (.variable name) op (.literal l)) v bound n

/-- A condition on groups is a bound on the number of values of a variable. -/
structure HavingCondition.Counts (c : HavingCondition) (v bound : String) (n : Number) :
    Prop where
  function : c.function = some "count"
  argument : c.argument? = some v
  operator : ∃ op, c.operator = some op ∧ (op, bound) ∈ boundOperators
  threshold : c.threshold = some n

lemma boundOn?_eq_some_iff {name f v : String} :
    boundOn? aggregates name = some (f, v) ↔ ∃ a, resultOf? aggregates name = some a ∧
      a.kind.function? = some f ∧ a.argument? = some v := by
  unfold boundOn?
  cases ha : resultOf? aggregates name with
  | none => simp
  | some a =>
    cases hf : a.kind.function? with
    | none => simp [hf]
    | some g => cases hv : a.argument? <;> simp [hf, hv]

lemma AggregateKind.function?_eq_count_iff {k : AggregateKind} :
    k.function? = some "count" ↔ k = .count := by
  cases k <;> simp [function?]

lemma Expression.number?_eq_some_iff {e : Expression} {n : Number} :
    e.number? = some n ↔ ∃ l, e = .literal l ∧ l.number? = some n := by
  cases e <;> simp [number?]

/-- The condition of a conjunct is a bound on a count exactly if the conjunct is. -/
lemma havingLeaf_counts_iff {e : Expression} {v bound : String} {n : Number} :
    (havingLeaf aggregates e).Counts v bound n ↔ BoundsCount aggregates e v bound n := by
  constructor
  · rintro ⟨hf, hv, ⟨op, hop, hbound⟩, hn⟩
    unfold havingLeaf at hf hv hop hn
    split at hf
    · rename_i name op' right
      cases hb : boundOn? aggregates name with
      | none => simp [hb] at hf
      | some b =>
        obtain ⟨f, w⟩ := b
        simp only [hb, Option.some.injEq] at hf hv hop hn
        subst hf hv hop
        obtain ⟨a, ha, hfunction, harg⟩ := boundOn?_eq_some_iff.mp hb
        obtain ⟨l, rfl, hl⟩ := Expression.number?_eq_some_iff.mp hn
        exact .compare ha (AggregateKind.function?_eq_count_iff.mp hfunction) harg hbound hl
    · rename_i name op' items
      -- what is a member of a list is compared with no number
      cases hb : boundOn? aggregates name <;> simp [hb] at hn
    · cases hf
  · rintro ⟨ha, hkind, harg, hop, hn⟩
    have hb := boundOn?_eq_some_iff.mpr
      ⟨_, ha, AggregateKind.function?_eq_count_iff.mpr hkind, harg⟩
    simp only [havingLeaf, hb]
    exact ⟨rfl, rfl, ⟨_, rfl, hop⟩, hn⟩

end GraphTalk.Sparql
