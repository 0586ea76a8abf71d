import GraphTalk.Sparql.Expression
import GraphTalk.Sparql.TripleOrder

/-!
# Query algebra

The operators that a query is built from, and how the parts of a group graph pattern are put
together.
-/

namespace GraphTalk.Sparql

open Rdf

/-- Descending or ascending order by an expression. -/
structure OrderKey where
  expression : Expression
  descending : Bool

/-- A query as a tree of operators. Operators that this library never looks into keep only what
tells them apart. -/
inductive Algebra where
  /-- A basic pattern: triples that hold together. -/
  | basic (triples : List Triple)
  | join (left right : Algebra)
  | union (left right : Algebra)
  | filter (condition : Expression) (inner : Algebra)
  | extend (name : String) (value : Expression) (inner : Algebra)
  | leftJoin (left right : Algebra)
  | minus (left right : Algebra)
  /-- A pattern inside a named graph. -/
  | graph (inner : Algebra)
  /-- Solutions given as data or by a query inside the query. -/
  | multiset
  /-- A pattern for another service. -/
  | service
  /-- The groups of the solutions; a key that is not a variable has no name. -/
  | group (keys : List String) (inner : Algebra)
  | aggregateJoin (aggregates : List Aggregate) (inner : Algebra)
  | orderBy (keys : List OrderKey) (inner : Algebra)
  | project (inner : Algebra)
  /-- Without repeated solutions. -/
  | distinct (inner : Algebra)
  | slice (start : Nat) (length : Option Nat) (inner : Algebra)

namespace Algebra

/-- The name of the operator at the root, in messages. -/
def name : Algebra → String
  | .basic _ => "BGP"
  | .join _ _ => "Join"
  | .union _ _ => "Union"
  | .filter _ _ => "Filter"
  | .extend _ _ _ => "Extend"
  | .leftJoin _ _ => "LeftJoin"
  | .minus _ _ => "Minus"
  | .graph _ => "Graph"
  | .multiset => "ToMultiSet"
  | .service => "ServiceGraphPattern"
  | .group _ _ => "Group"
  | .aggregateJoin _ _ => "AggregateJoin"
  | .orderBy _ _ => "OrderBy"
  | .project _ => "Project"
  | .distinct _ => "Distinct"
  | .slice _ _ _ => "Slice"

/-- The pattern that every solution satisfies. -/
def empty : Algebra := .basic []

/-- The join of two patterns; the empty pattern adds nothing to another. -/
def joined : Algebra → Algebra → Algebra
  | .basic [], right => right
  | left, .basic [] => left
  | left, right => .join left right

end Algebra

/-! ### Groups -/

/-- A part of a group graph pattern, in the order of writing. -/
inductive GroupPart where
  /-- A run of triples. -/
  | triples (triples : List Triple)
  /-- A pattern that is joined with what stands before it. -/
  | pattern (pattern : Algebra)
  | optional (pattern : Algebra)
  | minus (pattern : Algebra)
  | filter (condition : Expression)
  | bind (name : String) (value : Expression)

/-- The conditions of a group's filters, wherever they stand in it. -/
def GroupPart.conditions (parts : List GroupPart) : List Expression :=
  parts.filterMap fun
    | .filter e => some e
    | _ => none

/-- The parts other than filters, when runs of triples with only filters between them are made
one. Each run is put in order before. -/
def GroupPart.mergeTriples : List GroupPart → List GroupPart
  | [] => []
  | .filter _ :: rest => mergeTriples rest
  | .triples ts :: rest => match mergeTriples rest with
    | .triples us :: rest => .triples (reorder ts ++ us) :: rest
    | rest => .triples (reorder ts) :: rest
  | part :: rest => part :: mergeTriples rest

/-- Adds a part to the pattern that the parts before it make up. -/
def GroupPart.attach (before : Algebra) : GroupPart → Algebra
  | .triples ts => before.joined (.basic (reorder ts))
  | .pattern p => before.joined p
  | .optional p => .leftJoin before p
  | .minus p => .minus before p
  | .bind name value => .extend name value before
  | .filter _ => before

/-- A pattern under the conditions of its group. One condition that does not count as a condition
is dropped; several are and-ed as they are. -/
def Algebra.filtered (pattern : Algebra) : List Expression → Algebra
  | [] => pattern
  | [e] => if e.isTruthy then .filter e pattern else pattern
  | e :: es => .filter (.both e es) pattern

/-- The pattern that a group denotes: its parts from left to right, under its filters. -/
def Algebra.ofGroup (parts : List GroupPart) : Algebra :=
  ((GroupPart.mergeTriples parts).foldl GroupPart.attach .empty).filtered
    (GroupPart.conditions parts)

/-- The union of several patterns, from left to right. -/
def Algebra.ofAlternatives : List Algebra → Algebra
  | [] => .empty
  | p :: ps => ps.foldl .union p

end GraphTalk.Sparql
