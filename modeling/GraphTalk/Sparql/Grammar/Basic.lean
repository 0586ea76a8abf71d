import GraphTalk.Sparql.Reader

/-!
# Nesting

The parts of a query nest inside each other through brackets. A reader for a part that has others
inside takes the readers for those as arguments, and the knot is tied once, by the depth of
nesting that is still allowed.
-/

namespace GraphTalk.Sparql

open Rdf

/-- A group graph pattern: what it denotes, and the variables that occur in it. -/
structure GroupPattern where
  algebra : Algebra
  vars : List String

/-- The readers for what stands between brackets, one level further in. -/
structure Nested where
  expression : Reader Expression
  path : Reader Path
  /-- A term with the triples that are written inside of it; the argument says whether paths may
  stand as predicates there. -/
  node : Bool → Reader (Term × List Triple)
  group : Reader GroupPattern

/-- The readers when no further nesting is allowed. -/
def Nested.none : Nested :=
  { expression := failure, path := failure, node := fun _ => failure, group := failure }

namespace Reader

/-- Parts with something between each two. -/
def separatedBy {α : Type} (mark : Reader Unit) (p : Reader α) : Reader (List α) := do
  let x ← p
  let xs ← many (do mark; p)
  return x :: xs

/-- Parts with a mark between each two. -/
def separated {α : Type} (mark : String) (p : Reader α) : Reader (List α) :=
  separatedBy (symbol mark) p

/-- A part between two marks. -/
def between {α : Type} (opening closing : String) (p : Reader α) : Reader α := do
  symbol opening
  let x ← p
  symbol closing
  return x

end Reader

end GraphTalk.Sparql
