import GraphTalk.Rdf.Term

/-!
# Expressions

Expressions occur in filters, in `HAVING`, in the projection and in `ORDER BY`. Only their outline
matters here: comparisons, conjunctions and aggregates are kept apart, every other operation is an
application to arguments.
-/

namespace GraphTalk.Sparql

open Rdf

/-- The aggregates of the language. -/
inductive AggregateKind where
  | count
  | sum
  | min
  | max
  | avg
  | sample
  | groupConcat
deriving DecidableEq, Repr

/-- The function of a program that an aggregate is written as, if there is one. -/
def AggregateKind.function? : AggregateKind → Option String
  | .count => some "count"
  | .sum => some "sum"
  | .min => some "min"
  | .max => some "max"
  | .avg => some "avg"
  | .sample => none
  | .groupConcat => none

/-- The name of an aggregate in messages. -/
def AggregateKind.name : AggregateKind → String
  | .count => "Aggregate_Count"
  | .sum => "Aggregate_Sum"
  | .min => "Aggregate_Min"
  | .max => "Aggregate_Max"
  | .avg => "Aggregate_Avg"
  | .sample => "Aggregate_Sample"
  | .groupConcat => "Aggregate_GroupConcat"

/-- An expression. -/
inductive Expression where
  | variable (name : String)
  | iri (iri : String)
  | literal (literal : Literal)
  /-- An aggregate of an argument, or of everything. -/
  | aggregate (kind : AggregateKind) (distinct : Bool) (argument : Option Expression)
  /-- Two expressions with a comparison between them. -/
  | compare (left : Expression) (operator : String) (right : Expression)
  /-- An expression that is, or is not, among others. -/
  | member (left : Expression) (operator : String) (items : List Expression)
  /-- A conjunction of one expression and others. -/
  | both (first : Expression) (others : List Expression)
  /-- Any other operation. -/
  | apply (arguments : List Expression)
  /-- Whether a pattern with these variables has a solution. -/
  | exists_ (vars : List String)

namespace Expression

/-- The conjunction of one expression and others; of one alone it is that one. -/
def conjunction (first : Expression) (others : List Expression) : Expression :=
  if others.isEmpty then first else .both first others

/-- The argument of an aggregate if it is a variable. -/
def variableName? : Expression → Option String
  | .variable v => some v
  | _ => none

/-- Whether an expression counts as a condition at all: a literal by its value, an operation
unless it has no argument. -/
def isTruthy : Expression → Bool
  | .literal l => l.isTruthy
  | .iri i => i != ""
  | .apply arguments => !arguments.isEmpty
  | _ => true

/-- The number that a literal stands for. -/
def number? : Expression → Option Number
  | .literal l => l.number?
  | _ => none

/-- An expression as it is shown inside a message if it is a term by itself. Other expressions are
known by their outline only, and their text is not settled by it. -/
def describe? : Expression → Option String
  | .variable v => some (describeVariable v)
  | .iri i => some (describeIri i)
  | .literal l => some l.describe
  | _ => none

mutual

/-- The variables that occur in an expression, in reading order. -/
def vars : Expression → List String
  | .variable v => [v]
  | .iri _ => []
  | .literal _ => []
  | .aggregate _ _ none => []
  | .aggregate _ _ (some e) => e.vars
  | .compare a _ b => a.vars ++ b.vars
  | .member a _ items => a.vars ++ varsOf items
  | .both a others => a.vars ++ varsOf others
  | .apply arguments => varsOf arguments
  | .exists_ vs => vs

/-- The variables that occur in several expressions. -/
def varsOf : List Expression → List String
  | [] => []
  | e :: es => e.vars ++ varsOf es

end

mutual

/-- Whether an aggregate occurs in an expression. -/
def hasAggregate : Expression → Bool
  | .aggregate _ _ _ => true
  | .compare a _ b => a.hasAggregate || b.hasAggregate
  | .member a _ items => a.hasAggregate || anyHasAggregate items
  | .both a others => a.hasAggregate || anyHasAggregate others
  | .apply arguments => anyHasAggregate arguments
  | _ => false

/-- Whether an aggregate occurs in one of several expressions. -/
def anyHasAggregate : List Expression → Bool
  | [] => false
  | e :: es => e.hasAggregate || anyHasAggregate es

end

end Expression

/-! ### Numbering aggregates -/

/-- An aggregate that a query computes, and the variable that holds its result. -/
structure Aggregate where
  kind : AggregateKind
  distinct : Bool
  /-- The variable that is aggregated, if the argument is one. -/
  argument? : Option String
  /-- The variable that holds the result. -/
  result : String
deriving DecidableEq, Repr

/-- The variable that holds the result of the `n`-th aggregate. -/
def resultName (n : Nat) : String := "__agg_" ++ toString n ++ "__"

/-- Adds an aggregate to those that are computed; its result has the next number. -/
def register (kind : AggregateKind) (distinct : Bool) (argument : Option String)
    (found : List Aggregate) : String × List Aggregate :=
  let name := resultName (found.length + 1)
  (name, found ++ [{ kind, distinct, argument? := argument, result := name }])

namespace Expression

mutual

/-- Replaces each aggregate by the variable that holds its result. A variable outside of all
aggregates, other than `own`, is replaced by a sample of its values. -/
def extract (own : Option String) (found : List Aggregate) :
    Expression → Expression × List Aggregate
  | .variable v =>
    if own == some v then (.variable v, found)
    else
      let (name, found) := register .sample false (some v) found
      (.variable name, found)
  | .aggregate kind distinct argument =>
    let argument := match argument with
      | some (.variable v) => some v
      | _ => none
    let (name, found) := register kind distinct argument found
    (.variable name, found)
  | .compare a op b =>
    let (a, found) := extract own found a
    let (b, found) := extract own found b
    (.compare a op b, found)
  | .member a op items =>
    let (a, found) := extract own found a
    let (items, found) := extractAll own found items
    (.member a op items, found)
  | .both a others =>
    let (a, found) := extract own found a
    let (others, found) := extractAll own found others
    (.both a others, found)
  | .apply arguments =>
    let (arguments, found) := extractAll own found arguments
    (.apply arguments, found)
  | .exists_ vs =>
    let found := vs.foldl (fun found v =>
      if own == some v then found else (register .sample false (some v) found).2) found
    (.exists_ vs, found)
  | e => (e, found)

/-- Does the same with several expressions, from left to right. -/
def extractAll (own : Option String) (found : List Aggregate) :
    List Expression → List Expression × List Aggregate
  | [] => ([], found)
  | e :: es =>
    let (e, found) := extract own found e
    let (es, found) := extractAll own found es
    (e :: es, found)

end

end Expression

end GraphTalk.Sparql
