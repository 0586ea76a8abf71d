import GraphTalk.Number.Basic

/-!
# Programs

A program invokes a table and narrows, projects, sorts and aggregates what it holds. Conditions
compare fields with values.
-/

namespace GraphTalk

/-- The namespace of tables and of entity types. -/
def classNamespace : String := "org.wikidata"

/-- The type of an entity of which nothing more is known. -/
def genericEntityType : String := classNamespace ++ ":entity"

/-- A value that a field is compared with. -/
inductive Value where
  /-- An entity: its code, its type, and the words that it is mentioned by. -/
  | entity (code type display : String)
  | string (text : String)
  | number (number : Number)
deriving DecidableEq, Repr

/-- A condition on the rows of a table. -/
inductive Condition where
  | atom (field operator : String) (value : Value)
  /-- All of the conditions hold. -/
  | all (operands : List Condition)
  /-- At least one of the conditions holds. -/
  | any (operands : List Condition)
  /-- A bound on an aggregate of a field. -/
  | aggregate (function field operator : String) (threshold : Number)
deriving Repr

/-- A table expression. -/
inductive TableExpression where
  /-- All rows of a table. -/
  | invocation (domain className : String)
  | filter (inner : TableExpression) (condition : Condition)
  | projection (inner : TableExpression) (fields : List String)
  /-- An aggregate of a field, or of the rows. -/
  | aggregation (inner : TableExpression) (function : String) (field : Option String)
  /-- Whether a condition holds. -/
  | question (inner : TableExpression) (condition : Condition)
  | sort (inner : TableExpression) (field direction : String)
  /-- The first rows, up to a limit. -/
  | index (inner : TableExpression) (limit : Int)
deriving Repr

/-- A program: one statement. -/
structure Program where
  statement : TableExpression
deriving Repr

/-- All rows of a table of this library's namespace. -/
def baseTable (domain : String) : TableExpression := .invocation domain classNamespace

/-! ### Equality by value -/

/-- Equality of values: numbers by their value. -/
def Value.same : Value → Value → Bool
  | .number a, .number b => a.same b
  | .number _, _ => false
  | _, .number _ => false
  | a, b => a == b

mutual

/-- Equality of conditions: the same shape, and equal values. -/
def Condition.same : Condition → Condition → Bool
  | .atom f op v, .atom g oq w => f == g && op == oq && v.same w
  | .all cs, .all ds => Condition.sameAll cs ds
  | .any cs, .any ds => Condition.sameAll cs ds
  | .aggregate f g op n, .aggregate f' g' op' n' => f == f' && g == g' && op == op' && n.same n'
  | _, _ => false

/-- Equality of conditions one by one. -/
def Condition.sameAll : List Condition → List Condition → Bool
  | [], [] => true
  | c :: cs, d :: ds => c.same d && Condition.sameAll cs ds
  | _, _ => false

end

/-! ### Conjunction -/

/-- The conjunction of one condition and others; of one alone it is that one. -/
def Condition.conj (first : Condition) (others : List Condition) : Condition :=
  if others.isEmpty then first else .all (first :: others)

/-- The conjunction of conditions, if there is any. -/
def Condition.conjunction? : List Condition → Option Condition
  | [] => none
  | c :: cs => some (.conj c cs)

end GraphTalk
