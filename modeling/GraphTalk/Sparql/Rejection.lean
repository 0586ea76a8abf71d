import GraphTalk.Sparql.Expression

/-!
# Rejected queries

Why a text is not a query that this library can work with.
-/

namespace GraphTalk.Sparql

/-- Why a query is rejected before its clauses are looked at. -/
inductive Rejection where
  /-- The text is not a query, or a name in it has no namespace. -/
  | malformed
  /-- The query selects everything. -/
  | selectsAll
  /-- The query is neither a selection nor a question. -/
  | form (name : String)
  /-- The query skips solutions. -/
  | offset (start : Nat)
  /-- An operator of the pattern is not supported. -/
  | pattern (name : String)
  /-- What is projected is neither a variable nor an aggregate. -/
  | projection (expression : Expression)
  /-- The aggregate has no counterpart in a program. -/
  | aggregate (kind : AggregateKind)

end GraphTalk.Sparql
