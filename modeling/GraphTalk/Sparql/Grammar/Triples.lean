import GraphTalk.Sparql.Grammar.Path

/-!
# Reading triples

Triples that share their subject, or their subject and predicate, are written once with lists.
Brackets stand for a blank node with the triples it is the subject of, parentheses for a list.
-/

namespace GraphTalk.Sparql

open Rdf Reader

/-- A predicate; the argument says whether a path may stand there. -/
def verb (inner : Nested) (paths : Bool) : Reader Predicate :=
  if paths then (Predicate.path <$> path inner) <|> (Predicate.variable <$> variableName)
  else (Predicate.variable <$> variableName) <|> (do return .path (.iri (← iri <|> rdfType)))

/-- Objects of one subject and predicate, with the triples written inside of them. -/
def objects (inner : Nested) (paths : Bool) (subject : Term) (predicate : Predicate) :
    Reader (List Triple) := do
  let found ← separated "," (inner.node paths)
  return found.flatMap fun (object, inside) => ⟨subject, predicate, object⟩ :: inside

/-- Predicates with their objects. Only the objects of the first one may have paths inside. -/
def properties (inner : Nested) (paths : Bool) (subject : Term) : Reader (List Triple) := do
  let first ← objects inner paths subject (← verb inner paths)
  let more ← many (do
    symbol ";"
    return (← maybe (do objects inner false subject (← verb inner paths))).getD [])
  return first ++ more.flatten

/-- A blank node with the triples it is the subject of. -/
def blankWithProperties (inner : Nested) (paths : Bool) : Reader (Term × List Triple) := do
  symbol "["
  let node ← freshBlank
  let triples ← properties inner paths node
  symbol "]"
  return (node, triples)

/-- The triples that make up a list of terms, and its first cell. -/
def listCells : List (Term × List Triple) → Reader (Term × List Triple)
  | [] => return (.iri rdfNil, [])
  | (item, inside) :: rest => do
    let cell ← freshBlank
    let (tail, triples) ← listCells rest
    return (cell,
      ⟨cell, .path (.iri (rdfNamespace ++ "first")), item⟩ ::
      ⟨cell, .path (.iri (rdfNamespace ++ "rest")), tail⟩ :: triples ++ inside)

/-- A term with the triples written inside of it. -/
def bracketNode (inner : Nested) (paths : Bool) : Reader (Term × List Triple) :=
  blankWithProperties inner paths <|>
  (do listCells (← between "(" ")" (some1 (inner.node paths))))

/-- A term, with the triples written inside of it if there are brackets. -/
def node (inner : Nested) (paths : Bool) : Reader (Term × List Triple) :=
  (do return (← varOrTerm, [])) <|> bracketNode inner paths

/-- The triples of one subject. -/
def subjectTriples (inner : Nested) (paths : Bool) : Reader (List Triple) :=
  (do
    let subject ← varOrTerm
    properties inner paths subject) <|>
  (do
    let (subject, inside) ← bracketNode inner paths
    return inside ++ (← maybe (properties inner paths subject)).getD [])

/-- The triples of several subjects, with dots between them and perhaps one at the end. -/
def triplesBlock (inner : Nested) (paths : Bool) : Reader (List Triple) := do
  let first ← subjectTriples inner paths
  let more ← many (do symbol "."; subjectTriples inner paths)
  let _ ← maybe (symbol ".")
  return first ++ more.flatten

end GraphTalk.Sparql
