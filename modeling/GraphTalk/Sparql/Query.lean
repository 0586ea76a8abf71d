import GraphTalk.Sparql.Clause
import GraphTalk.Sparql.Rejection

/-!
# Queries

A query as this library works with it: the clauses of its pattern, and its solution modifiers as
plain fields. `Query.ofAlgebra` reads one off the algebra.
-/

namespace GraphTalk.Sparql

open Rdf

/-- What a query asks for. -/
inductive QueryKind where
  /-- The solutions. -/
  | select
  /-- Whether there is a solution. -/
  | ask
deriving DecidableEq, Repr

/-- An aggregate that is projected. -/
structure ProjectedAggregate where
  function : String
  /-- The variable that is aggregated, if the argument is one. -/
  argument? : Option String
  /-- The variable that the result is projected as. -/
  name : String
  distinct : Bool
deriving DecidableEq, Repr

/-- A condition on groups: `function(variable) operator threshold` when it has that shape. -/
structure HavingCondition where
  expression : Expression
  function : Option String := none
  argument? : Option String := none
  operator : Option String := none
  threshold : Option Number := none

/-- Whether a condition on groups has the shape of a bound on an aggregate. -/
def HavingCondition.isSimple (c : HavingCondition) : Bool :=
  c.function.isSome && c.argument?.isSome && c.operator.isSome && c.threshold.isSome

/-- An order by a variable, or by some expression. -/
structure OrderCondition where
  key? : Option String
  /-- The word for the direction. -/
  direction : String := "asc"
deriving DecidableEq, Repr

/-- A query. -/
structure Query where
  kind : QueryKind
  /-- The variables that are asked for, repeats included. -/
  vars : List String := []
  aggregates : List ProjectedAggregate := []
  clauses : List Clause := []
  group : List String := []
  having : List HavingCondition := []
  order : List OrderCondition := []
  limit : Option Int := none
  distinct : Bool := false

/-- Whether the query asks for a truth value. -/
def Query.isQuestion (q : Query) : Bool := q.kind == .ask

/-! ### Conditions on groups -/

/-- The aggregate whose result a variable holds; of several the last one. -/
def resultOf? (aggregates : List Aggregate) (name : String) : Option Aggregate :=
  (aggregates.filter fun a => a.result == name).getLast?

/-- A comparison of what a variable holds, as a bound on an aggregate of a variable. -/
def boundOn? (aggregates : List Aggregate) (name : String) : Option (String × String) :=
  match resultOf? aggregates name with
  | none => none
  | some a => match a.kind.function?, a.argument? with
    | some f, some v => some (f, v)
    | _, _ => none

/-- The condition that one conjunct stands for. -/
def havingLeaf (aggregates : List Aggregate) (e : Expression) : HavingCondition :=
  match e with
  | .compare (.variable name) op right => match boundOn? aggregates name with
    | some (f, v) =>
      { expression := e, function := some f, argument? := some v, operator := some op,
        threshold := right.number? }
    | none => { expression := e }
  | .member (.variable name) op _ => match boundOn? aggregates name with
    | some (f, v) =>
      { expression := e, function := some f, argument? := some v, operator := some op }
    | none => { expression := e }
  | _ => { expression := e }

mutual

/-- The conditions that an expression on groups is the conjunction of, from left to right. -/
def havingConditions (aggregates : List Aggregate) : Expression → List HavingCondition
  | .both first others => havingConditions aggregates first ++ havingAll aggregates others
  | e => [havingLeaf aggregates e]

/-- The conditions of several expressions. -/
def havingAll (aggregates : List Aggregate) : List Expression → List HavingCondition
  | [] => []
  | e :: es => havingConditions aggregates e ++ havingAll aggregates es

end

/-! ### From the algebra -/

/-- What has been read off the root of an algebra on the way to the pattern. -/
structure Modifiers where
  limit : Option Nat := none
  distinct : Bool := false
  order : List OrderCondition := []
  /-- The extensions that were met, the outermost last. -/
  extensions : List (String × Expression) := []
  having : Option Expression := none
  aggregates : List Aggregate := []
  group : List String := []

/-- Whether only extensions stand above the aggregates. -/
def Algebra.reachesAggregates : Algebra → Bool
  | .extend _ _ p => p.reachesAggregates
  | .aggregateJoin _ _ => true
  | _ => false

/-- The order condition that a key stands for. -/
def OrderKey.condition (k : OrderKey) : OrderCondition :=
  { key? := k.expression.variableName?, direction := if k.descending then "desc" else "asc" }

/-- Walks from the root down to the pattern and collects the modifiers on the way. -/
def Algebra.peel (found : Modifiers) : Algebra → Except Rejection (Modifiers × Algebra)
  | .slice start length p =>
    if start ≠ 0 then .error (.offset start) else p.peel { found with limit := length }
  | .distinct p => p.peel { found with distinct := true }
  | .project p => p.peel found
  | .orderBy keys p => p.peel { found with order := found.order ++ keys.map OrderKey.condition }
  | .extend name value p =>
    p.peel { found with extensions := (name, value) :: found.extensions }
  | .aggregateJoin aggregates p =>
    p.peel { found with aggregates := found.aggregates ++ aggregates }
  | .group keys p => p.peel { found with group := keys }
  | .filter e p =>
    if p.reachesAggregates then p.peel { found with having := some e }
    else .ok (found, .filter e p)
  | p => .ok (found, p)

/-- The projected aggregate that an extension stands for. A sample is projected as the variable it
is a sample of and is passed over. -/
def projected? (aggregates : List Aggregate) (extension : String × Expression) :
    Except Rejection (Option ProjectedAggregate) :=
  match extension.2 with
  | .variable name => match resultOf? aggregates name with
    | none => .error (.projection extension.2)
    | some a =>
      if a.kind = .sample then .ok none
      else match a.kind.function? with
        | none => .error (.aggregate a.kind)
        | some f => .ok (some
          { function := f, argument? := a.argument?, name := extension.1, distinct := a.distinct })
  | e => .error (.projection e)

/-- The projected aggregates, in the order in which they are projected. -/
def projectedAggregates (aggregates : List Aggregate) :
    List (String × Expression) → Except Rejection (List ProjectedAggregate)
  | [] => .ok []
  | x :: xs => do
    let a ← projected? aggregates x
    let rest ← projectedAggregates aggregates xs
    return a.toList ++ rest

/-- Reads a query off its algebra. -/
def Query.ofAlgebra (kind : QueryKind) (vars : List String) (root : Algebra) :
    Except Rejection Query := do
  let (found, pattern) ← root.peel {}
  let clauses ← pattern.clauses.mapError Rejection.pattern
  let aggregates ← projectedAggregates found.aggregates found.extensions
  let having := match found.having with
    | some e => havingConditions found.aggregates e
    | none => []
  return { kind, vars, aggregates, clauses, group := found.group, having,
           order := found.order, limit := found.limit.map Int.ofNat,
           distinct := found.distinct }

end GraphTalk.Sparql
