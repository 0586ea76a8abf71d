import GraphTalk.Rdf.Term

/-!
# The order of triples

The triples of a basic pattern are put in an order in which those with the fewest unknown
variables come first. A triple makes its variables known to the triples after it.
-/

namespace GraphTalk.Rdf

/-- A variable or blank node, as something that a solution binds. -/
inductive Unknown where
  | variable (name : String)
  | blank (node : BlankNode)
deriving DecidableEq, Repr

/-- What a solution binds at a term. -/
def Term.unknown? : Term → Option Unknown
  | .variable v => some (.variable v)
  | .blank b => some (.blank b)
  | _ => none

/-- What a solution binds at a predicate. -/
def Predicate.unknown? : Predicate → Option Unknown
  | .variable v => some (.variable v)
  | .path _ => none

/-- What a solution binds at the three places of a triple, repeats included. -/
def Triple.unknowns (t : Triple) : List Unknown :=
  [t.subject.unknown?, t.predicate.unknown?, t.object.unknown?].filterMap id

/-! ### Order of terms -/

/-- Blank nodes by their labels; one without a label comes after those with one. -/
def BlankNode.lt : BlankNode → BlankNode → Bool
  | .labelled a, .labelled b => a < b
  | .labelled _, .fresh _ => true
  | .fresh _, .labelled _ => false
  | .fresh m, .fresh n => m < n

/-- Blank nodes, then variables, then IRIs, then literals. -/
def Term.lt : Term → Term → Bool
  | .blank a, .blank b => a.lt b
  | .blank _, _ => true
  | _, .blank _ => false
  | .variable a, .variable b => a < b
  | .variable _, _ => true
  | _, .variable _ => false
  | .iri a, .iri b => a < b
  | .iri _, _ => true
  | _, .iri _ => false
  | .literal a, .literal b => a.lt b

/-- Paths, then variables, then IRIs. -/
def Predicate.lt : Predicate → Predicate → Bool
  | .path (.iri a), .path (.iri b) => a < b
  | .path (.iri _), _ => false
  | .variable _, .path (.iri _) => true
  | .variable a, .variable b => a < b
  | .variable _, .path _ => false
  | .path _, .path (.iri _) => true
  | .path p, .path q => p.describe < q.describe
  | .path _, .variable _ => true

/-- The same predicate. -/
def Predicate.same : Predicate → Predicate → Bool
  | .variable a, .variable b => a == b
  | .path p, .path q => p.same q
  | _, _ => false

/-- Triples by subject, then predicate, then object. -/
def Triple.lt (s t : Triple) : Bool :=
  if !s.subject.same t.subject then s.subject.lt t.subject
  else if !s.predicate.same t.predicate then s.predicate.lt t.predicate
  else s.object.lt t.object

/-! ### Order of a pattern -/

/-- How urgent a triple is: the number of its unknowns, how often its unknowns occur in the
pattern, and whether its object is a literal. -/
structure Rank where
  unknown : Nat
  occurrences : Nat
  literal : Bool
  triple : Triple

/-- Fewer unknowns, more occurrences, a literal as object; then the triples themselves. -/
def Rank.lt (a b : Rank) : Bool :=
  if a.unknown != b.unknown then a.unknown < b.unknown
  else if a.occurrences != b.occurrences then b.occurrences < a.occurrences
  else if a.literal != b.literal then a.literal
  else a.triple.lt b.triple

/-- The rank of a triple when some unknowns are known already. -/
def Triple.rank (all known : List Unknown) (t : Triple) : Rank :=
  { unknown := (t.unknowns.filter fun u => !known.contains u).length
    occurrences := t.unknowns.foldl (fun n u => n + all.count u) 0
    literal := match t.object with
      | .literal _ => true
      | _ => false
    triple := t }

/-- Puts a rank behind those that do not come after it. -/
def insertRank (r : Rank) : List Rank → List Rank
  | [] => [r]
  | s :: rest => if r.lt s then r :: s :: rest else s :: insertRank r rest

/-- Ranks in order; equal ones stay in the order they have. -/
def sortRanks (rs : List Rank) : List Rank :=
  rs.foldl (fun sorted r => insertRank r sorted) []

/-- Takes one triple after the other. After each choice the unknowns of all triples with as few
unknowns as the chosen one are known, and the rest is ranked anew. -/
def reorderFrom (all : List Unknown) : Nat → List Unknown → List Triple → List Triple
  | 0, _, ts => ts
  | fuel + 1, known, ts =>
    match sortRanks (ts.map (Triple.rank all known)) with
    | [] => []
    | first :: rest =>
      let block := (first :: rest).takeWhile fun r => r.unknown == first.unknown
      let known := known ++ block.flatMap fun r => r.triple.unknowns
      first.triple :: reorderFrom all fuel known (rest.map Rank.triple)

/-- The triples of a basic pattern in order. -/
def reorder (ts : List Triple) : List Triple :=
  reorderFrom (ts.flatMap Triple.unknowns) ts.length [] ts

end GraphTalk.Rdf
