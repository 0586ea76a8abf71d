import GraphTalk.Sparql.Algebra

/-!
# Clauses

The pattern of a query as a flat list of clauses. Joins become sequences of clauses and directly
nested unions become one union of all their branches.
-/

namespace GraphTalk.Sparql

open Rdf

mutual

/-- A clause of the pattern of a query. -/
inductive Clause where
  /-- Triples that hold together. -/
  | basic (triples : List Triple)
  /-- At least one of the branches holds. -/
  | union (branches : List Branch)
  /-- A condition holds. -/
  | filter (condition : Expression)

/-- A branch of a union. -/
inductive Branch where
  /-- A branch that is one clause. -/
  | single (clause : Clause)
  /-- A branch of no clause or of several. -/
  | group (clauses : List Clause)

end

/-- The branch that clauses make up. -/
def Branch.ofClauses : List Clause → Branch
  | [c] => .single c
  | cs => .group cs

/-- The triples of a branch that is one basic pattern. -/
def Branch.basic? : Branch → Option (List Triple)
  | .single (.basic ts) => some ts
  | _ => none

mutual

/-- The clauses of a pattern, or the name of the first operator that is not supported. -/
def Algebra.clauses : Algebra → Except String (List Clause)
  | .basic ts => .ok (if ts.isEmpty then [] else [.basic ts])
  | .join l r => do return (← l.clauses) ++ (← r.clauses)
  | .union l r => do return [.union ((← l.branches) ++ (← r.branches))]
  | .filter e p => do return (← p.clauses) ++ [.filter e]
  | p => .error p.name

/-- The branches that a side of a union stands for: those of a union, else one. -/
def Algebra.branches : Algebra → Except String (List Branch)
  | .union l r => do return (← l.branches) ++ (← r.branches)
  | .basic ts => .ok [.ofClauses (if ts.isEmpty then [] else [.basic ts])]
  | .join l r => do return [.ofClauses ((← l.clauses) ++ (← r.clauses))]
  | .filter e p => do return [.ofClauses ((← p.clauses) ++ [.filter e])]
  | p => .error p.name

end

/-! ### Unions that widen one triple -/

/-- Whether a path only widens a property: to the country of what it leads to, or to the broader
classes of it. -/
def widens : Path → Bool
  | p => p.isProperty "P17" || p.isSubclassClosure

/-- The triple that a union reads as: its first branch is that triple, and the second is the same
with a wider path. -/
def widenedTriple? : List Branch → Option Triple
  | [.single (.basic [first]), .single (.basic [second])] =>
    if first.subject.same second.subject && first.object.same second.object then
      match first.predicate, second.predicate with
      | .path (.iri p), .path (.sequence [q, wider]) =>
        if q.same (.iri p) && widens wider then some first else none
      | _, _ => none
    else none
  | _ => none

/-! ### Clauses in messages -/

/-- The texts of a list in which every item has one. -/
def allSome {α : Type} : List (Option α) → Option (List α)
  | [] => some []
  | none :: _ => none
  | some a :: rest => (allSome rest).map (a :: ·)

section

variable (blank : BlankNode → Option String)

/-- A basic pattern as it is shown inside a message. -/
def describeBasic? (ts : List Triple) : Option String :=
  (allSome (ts.map (Triple.describe? blank))).map fun texts =>
    "BasicPattern(triples=[" ++ String.intercalate ", " texts ++ "])"

mutual

/-- A clause as it is shown inside a message, given how blank nodes are. The text of a condition is
not settled by its outline, and a clause that has one in it has no text here. -/
def Clause.describe? : Clause → Option String
  | .basic ts => describeBasic? blank ts
  | .union bs => (describeBranches? bs).map fun texts =>
    "UnionPattern(patterns=[" ++ String.intercalate ", " texts ++ "])"
  | .filter _ => none

/-- A branch as it is shown inside a message. -/
def Branch.describe? : Branch → Option String
  | .single c => c.describe?
  | .group cs => (describeClauses? cs).map fun texts =>
    "[" ++ String.intercalate ", " texts ++ "]"

/-- Branches as they are shown, if all are. -/
def describeBranches? : List Branch → Option (List String)
  | [] => some []
  | b :: bs => match b.describe?, describeBranches? bs with
    | some t, some ts => some (t :: ts)
    | _, _ => none

/-- Clauses as they are shown, if all are. -/
def describeClauses? : List Clause → Option (List String)
  | [] => some []
  | c :: cs => match c.describe?, describeClauses? cs with
    | some t, some ts => some (t :: ts)
    | _, _ => none

end

end

end GraphTalk.Sparql
