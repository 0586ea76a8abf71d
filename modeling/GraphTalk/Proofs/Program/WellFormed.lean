import Mathlib.Data.List.Forall2
import GraphTalk.Program.Render
import GraphTalk.Schema.Basic

/-!
# Well-formed programs

A program is well-formed if its names are made of the characters that names have, its operators,
functions and directions are those that there are, every conjunction and disjunction has two
operands at least, and every projection has a field. Codes, displays and other texts may hold
anything, and parts may be nested in any way.

Two programs are alike if they differ in numbers only, and only in such as are written alike.
-/

namespace GraphTalk

/-- A text of one character or more, all of them of a class. -/
def IsWord (p : Char → Bool) (s : String) : Prop := s ≠ "" ∧ ∀ c ∈ s.toList, p c = true

instance (p : Char → Bool) (s : String) : Decidable (IsWord p s) :=
  haveI := List.decidableBAll (p · = true) s.toList
  instDecidableAnd

/-- A name of a field or of a domain. -/
abbrev IsName : String → Prop := IsWord Manifest.isNameChar

/-- The characters of the names of classes. -/
def isClassChar (c : Char) : Bool := Manifest.isNameChar c || c == '.'

/-! ### Parts that are well-formed -/

/-- The operators that compare a field or an aggregate with a value. -/
def comparisons : List String := ["==", ">=", "<="]

/-- The functions that aggregate. -/
def aggregateFunctions : List String := ["count", "sum", "avg", "min", "max"]

/-- The directions of an order. -/
def directions : List String := ["asc", "desc"]

/-- The type of an entity is a word. -/
def Value.WellFormed : Value → Prop
  | .entity _ type _ => IsWord FieldType.isTypeChar type
  | _ => True

/-- Names, operators and functions are such, and there are operands enough. -/
inductive Condition.WellFormed : Condition → Prop where
  | atom {field operator : String} {value : Value} (hf : IsName field)
      (hop : operator = "contains" ∨ operator ∈ comparisons) (hv : value.WellFormed) :
      WellFormed (.atom field operator value)
  | all {cs : List Condition} (hlen : 2 ≤ cs.length) (h : ∀ c ∈ cs, WellFormed c) :
      WellFormed (.all cs)
  | any {cs : List Condition} (hlen : 2 ≤ cs.length) (h : ∀ c ∈ cs, WellFormed c) :
      WellFormed (.any cs)
  | aggregate {function field operator : String} {threshold : Number}
      (hfn : function ∈ aggregateFunctions) (hf : IsName field) (hop : operator ∈ comparisons) :
      WellFormed (.aggregate function field operator threshold)

/-- Names, functions and directions are such, a projection has fields, and conditions are
well-formed. A limit may be any integer. -/
inductive TableExpression.WellFormed : TableExpression → Prop where
  | invocation {domain className : String} (hd : IsName domain)
      (hc : IsWord isClassChar className) : WellFormed (.invocation domain className)
  | filter {e : TableExpression} {c : Condition} (he : WellFormed e) (hc : c.WellFormed) :
      WellFormed (.filter e c)
  | projection {e : TableExpression} {fields : List String} (he : WellFormed e)
      (hne : fields ≠ []) (hf : ∀ f ∈ fields, IsName f) : WellFormed (.projection e fields)
  | aggregation {e : TableExpression} {function : String} {field : Option String}
      (he : WellFormed e) (hfn : function ∈ aggregateFunctions) (hf : ∀ f ∈ field, IsName f) :
      WellFormed (.aggregation e function field)
  | question {e : TableExpression} {c : Condition} (he : WellFormed e) (hc : c.WellFormed) :
      WellFormed (.question e c)
  | sort {e : TableExpression} {field direction : String} (he : WellFormed e) (hf : IsName field)
      (hd : direction ∈ directions) : WellFormed (.sort e field direction)
  | index {e : TableExpression} (limit : Int) (he : WellFormed e) : WellFormed (.index e limit)

/-- The statement of a program is well-formed. -/
def Program.WellFormed (p : Program) : Prop := p.statement.WellFormed

/-! ### Parts that are alike -/

/-- Values are alike: the same, or numbers with the same text. -/
inductive Value.Alike : Value → Value → Prop where
  | refl (v : Value) : Alike v v
  | number {m n : Number} (h : m.render = n.render) : Alike (.number m) (.number n)

/-- Conditions are alike: the same but for numbers with the same text. -/
inductive Condition.Alike : Condition → Condition → Prop where
  | atom {field operator : String} {v w : Value} (h : v.Alike w) :
      Alike (.atom field operator v) (.atom field operator w)
  | all {cs ds : List Condition} (h : List.Forall₂ Alike cs ds) : Alike (.all cs) (.all ds)
  | any {cs ds : List Condition} (h : List.Forall₂ Alike cs ds) : Alike (.any cs) (.any ds)
  | aggregate {function field operator : String} {m n : Number} (h : m.render = n.render) :
      Alike (.aggregate function field operator m) (.aggregate function field operator n)

/-- Table expressions are alike: the same but for numbers with the same text. -/
inductive TableExpression.Alike : TableExpression → TableExpression → Prop where
  | invocation {domain className : String} :
      Alike (.invocation domain className) (.invocation domain className)
  | filter {e e' : TableExpression} {c c' : Condition} (he : Alike e e') (hc : c.Alike c') :
      Alike (.filter e c) (.filter e' c')
  | projection {e e' : TableExpression} {fields : List String} (he : Alike e e') :
      Alike (.projection e fields) (.projection e' fields)
  | aggregation {e e' : TableExpression} {function : String} {field : Option String}
      (he : Alike e e') : Alike (.aggregation e function field) (.aggregation e' function field)
  | question {e e' : TableExpression} {c c' : Condition} (he : Alike e e') (hc : c.Alike c') :
      Alike (.question e c) (.question e' c')
  | sort {e e' : TableExpression} {field direction : String} (he : Alike e e') :
      Alike (.sort e field direction) (.sort e' field direction)
  | index {e e' : TableExpression} {limit : Int} (he : Alike e e') :
      Alike (.index e limit) (.index e' limit)

/-- The statements of programs are alike. -/
def Program.Alike (p q : Program) : Prop := p.statement.Alike q.statement

end GraphTalk
