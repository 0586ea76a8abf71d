import Mathlib.Data.Set.Basic
import GraphTalk.Conversion.Table
import GraphTalk.Proofs.Program.Same
import GraphTalk.Proofs.Sparql.Triples
import GraphTalk.Schema.Basic

/-!
# Meaning in a graph

A graph says which entity has which entity as which property. The clauses of a query hold in a
graph under an assignment of entities to variables, and a program denotes the entities that it
finds in a graph.

A graph has no literals, and there are no rows to count or to sort. So there is no rule for
conditions on literals and groups, for filters of a query, and for programs that do more than
invoke a table and filter it.
-/

namespace GraphTalk

/-- A graph: the triples of an entity, a property of it, and the entity that this property is. -/
abbrev Graph := Set (String × String × String)

/-! ### Patterns -/

namespace Rdf

/-- The entity that a term stands for under an assignment. -/
def Term.value? (σ : String → String) : Term → Option String
  | .variable v => some (σ v)
  | t => t.entity?

/-- The direct property that a predicate is, as it stands. -/
def Predicate.direct? : Predicate → Option String
  | .variable _ => none
  | .path p => p.property?

namespace Triple

variable {G : Graph} {σ : String → String}

/-- A triple pattern holds: its entities are related by its property. -/
def Holds (G : Graph) (σ : String → String) (t : Triple) : Prop :=
  ∃ s p o, t.subject.value? σ = some s ∧ t.predicate.direct? = some p ∧
    t.object.value? σ = some o ∧ (s, p, o) ∈ G

/-- Whether a triple pattern gives a type. -/
def IsType (t : Triple) : Prop := t.predicate.direct? = some instanceOf

/-- The triple pattern that a variable has an entity as a direct property. -/
def ofCodes (x p o : String) : Triple where
  subject := .variable x
  predicate := .path (.iri (propertyNamespace ++ p))
  object := .iri (entityNamespace ++ o)

/-- A triple pattern about a variable, with a direct property and an entity. -/
def IsFact (x : String) (t : Triple) : Prop := ∃ p o, t = .ofCodes x p o

@[simp] lemma direct?_ofCodes (x p o : String) :
    (ofCodes x p o).predicate.direct? = some p := Text.dropStart?_append _ p

@[simp] lemma property?_ofCodes (x p o : String) :
    (ofCodes x p o).predicate.property? = some p := by
  simp [ofCodes, Predicate.property?, Path.simplify, Path.property?, Text.dropStart?_append]

@[simp] lemma entity?_ofCodes (x p o : String) : (ofCodes x p o).object.entity? = some o :=
  Text.dropStart?_append _ o

@[simp] lemma holds_ofCodes {x p o : String} :
    (ofCodes x p o).Holds G σ ↔ (σ x, p, o) ∈ G := by
  have hs : (ofCodes x p o).subject.value? σ = some (σ x) := rfl
  have ho : (ofCodes x p o).object.value? σ = some o := entity?_ofCodes x p o
  simp [Holds, hs, ho]

@[simp] lemma isType_ofCodes {x p o : String} : (ofCodes x p o).IsType ↔ p = instanceOf := by
  simp [IsType]

end Triple

end Rdf

namespace Sparql

open Rdf

mutual

/-- A clause holds: all of its triples do, or one of its branches. -/
inductive Clause.Holds (G : Graph) (σ : String → String) : Clause → Prop where
  | basic {ts : List Triple} (h : ∀ t ∈ ts, t.Holds G σ) : Clause.Holds G σ (.basic ts)
  | union {bs : List Branch} {b : Branch} (hb : b ∈ bs) (h : Branch.Holds G σ b) :
      Clause.Holds G σ (.union bs)

/-- A branch of a union holds: all of its clauses do. -/
inductive Branch.Holds (G : Graph) (σ : String → String) : Branch → Prop where
  | single {c : Clause} (h : Clause.Holds G σ c) : Branch.Holds G σ (.single c)
  | group {cs : List Clause} (h : ∀ c ∈ cs, Clause.Holds G σ c) : Branch.Holds G σ (.group cs)

end

variable {G : Graph} {σ : String → String}

@[simp] lemma Clause.holds_basic {ts : List Triple} :
    (Clause.basic ts).Holds G σ ↔ ∀ t ∈ ts, t.Holds G σ := by
  constructor
  · intro h
    cases h with
    | basic h => exact h
  · exact .basic

@[simp] lemma Branch.holds_basic {ts : List Triple} :
    (Branch.single (.basic ts)).Holds G σ ↔ ∀ t ∈ ts, t.Holds G σ := by
  constructor
  · intro h
    cases h with
    | single h => exact Clause.holds_basic.mp h
  · exact fun h => .single (.basic h)

lemma Clause.holds_union {bs : List Branch} :
    (Clause.union bs).Holds G σ ↔ ∃ b ∈ bs, b.Holds G σ := by
  constructor
  · intro h
    cases h with
    | union hb h => exact ⟨_, hb, h⟩
  · rintro ⟨b, hb, h⟩
    exact .union hb h

/-- A union of two lists of triples holds if all of one list do. -/
@[simp] lemma Clause.holds_union_basic {left right : List Triple} :
    (Clause.union [.single (.basic left), .single (.basic right)]).Holds G σ ↔
      (∀ t ∈ left, t.Holds G σ) ∨ ∀ t ∈ right, t.Holds G σ := by
  simp [Clause.holds_union]

end Sparql

/-! ### Programs -/

namespace Schema

/-- No two tables have one name, no two fields have one name, and no table has the default name. -/
structure Unambiguous (s : Schema) : Prop where
  table : ∀ {d d' name : String}, s.tableName? d = some name → s.tableName? d' = some name → d = d'
  field : ∀ {p p' name : String}, s.fieldName? p = some name → s.fieldName? p' = some name → p = p'
  notDefault : ∀ d : String, s.tableName? d ≠ some Conversion.defaultTable

/-- An entity is in a table: it has the type that the table is for. The default table is for all
entities. -/
def InTable (s : Schema) (G : Graph) (name e : String) : Prop :=
  name = Conversion.defaultTable ∨
    ∃ d, s.tableName? d = some name ∧ (e, Rdf.instanceOf, d) ∈ G

end Schema

variable {s : Schema} {G : Graph} {e : String}

/-- A condition holds of an entity: it has the value as the property that the field is for. Unless
a field is named so, `id` is the entity itself. -/
inductive Condition.Holds (s : Schema) (G : Graph) (e : String) : Condition → Prop where
  | field {p field operator o type display : String} (hp : s.fieldName? p = some field)
      (hop : operator = "==" ∨ operator = "contains") (h : (e, p, o) ∈ G) :
      Condition.Holds s G e (.atom field operator (.entity o type display))
  | identity {type display : String} (hid : ∀ p, s.fieldName? p ≠ some "id") :
      Condition.Holds s G e (.atom "id" "==" (.entity e type display))
  | all {cs : List Condition} (h : ∀ c ∈ cs, Condition.Holds s G e c) :
      Condition.Holds s G e (.all cs)
  | any {cs : List Condition} {c : Condition} (hc : c ∈ cs) (h : Condition.Holds s G e c) :
      Condition.Holds s G e (.any cs)

/-- An expression denotes an entity: the entity is in the table and fulfils the conditions. -/
inductive TableExpression.Denotes (s : Schema) (G : Graph) (e : String) :
    TableExpression → Prop where
  | table {name : String} (h : s.InTable G name e) :
      TableExpression.Denotes s G e (.invocation name classNamespace)
  | filter {inner : TableExpression} {c : Condition} (hi : TableExpression.Denotes s G e inner)
      (hc : c.Holds s G e) : TableExpression.Denotes s G e (.filter inner c)

namespace Condition

/-- In a schema without ambiguities, a field is compared by the property that it is for. -/
lemma holds_field (hs : s.Unambiguous) {p field operator o type display : String}
    (hp : s.fieldName? p = some field) (hop : operator = "==" ∨ operator = "contains") :
    (atom field operator (.entity o type display)).Holds s G e ↔ (e, p, o) ∈ G := by
  constructor
  · intro h
    cases h with
    | field hp' _ h => exact hs.field hp' hp ▸ h
    | identity hid => exact absurd hp (hid p)
  · exact .field hp hop

lemma holds_all {cs : List Condition} : (all cs).Holds s G e ↔ ∀ c ∈ cs, c.Holds s G e := by
  constructor
  · intro h
    cases h with
    | all h => exact h
  · exact .all

lemma holds_any {cs : List Condition} : (any cs).Holds s G e ↔ ∃ c ∈ cs, c.Holds s G e := by
  constructor
  · intro h
    cases h with
    | any hc h => exact ⟨_, hc, h⟩
  · rintro ⟨c, hc, h⟩
    exact .any hc h

@[simp] lemma holds_conj {c : Condition} {cs : List Condition} :
    (conj c cs).Holds s G e ↔ ∀ d ∈ c :: cs, d.Holds s G e := by
  unfold conj
  split
  · rename_i hcs
    simp [List.isEmpty_iff.mp hcs]
  · exact holds_all

/-- A condition on an entity is equal to itself only. -/
lemma eq_of_same_entity {field operator o type display : String} {d : Condition}
    (h : (atom field operator (.entity o type display)).same d = true) :
    d = atom field operator (.entity o type display) := by
  cases d with
  | atom g oq w =>
    cases w with
    | entity => simp_all [Condition.same, Value.same]
    | _ => simp [Condition.same, Value.same] at h
  | _ => simp [Condition.same] at h

/-- Equal conditions hold of the same entities. -/
lemma Holds.of_same {c d : Condition} (h : c.Holds s G e) (hsame : c.same d = true) :
    d.Holds s G e := by
  induction h generalizing d with
  | field hp hop h => exact eq_of_same_entity hsame ▸ .field hp hop h
  | identity hid => exact eq_of_same_entity hsame ▸ .identity hid
  | @all cs h ih =>
    cases d with
    | all ds =>
      simp only [Condition.same] at hsame
      refine .all fun d hd => ?_
      obtain ⟨c, hc, hcd⟩ := (exists_same_of_sameAll hsame).2 d hd
      exact ih c hc hcd
    | _ => simp [Condition.same] at hsame
  | @any cs c hc h ih =>
    cases d with
    | any ds =>
      simp only [Condition.same] at hsame
      obtain ⟨d, hd, hcd⟩ := (exists_same_of_sameAll hsame).1 c hc
      exact .any hd (ih hcd)
    | _ => simp [Condition.same] at hsame

end Condition

namespace TableExpression

@[simp] lemma denotes_baseTable {name : String} :
    (baseTable name).Denotes s G e ↔ s.InTable G name e := by
  constructor
  · intro h
    cases h with
    | table h => exact h
  · exact .table

@[simp] lemma denotes_filter {inner : TableExpression} {c : Condition} :
    (filter inner c).Denotes s G e ↔ inner.Denotes s G e ∧ c.Holds s G e := by
  constructor
  · intro h
    cases h with
    | filter hi hc => exact ⟨hi, hc⟩
  · exact fun h => .filter h.1 h.2

end TableExpression

end GraphTalk
