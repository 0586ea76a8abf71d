import GraphTalk.Rdf.Literal
import GraphTalk.Rdf.Path
import GraphTalk.Text.Quoted

/-!
# Terms and triples

What stands in the three places of a triple pattern.
-/

namespace GraphTalk.Rdf

/-- A blank node: with a label of its own, or one that a bracket stands for. -/
inductive BlankNode where
  | labelled (label : String)
  | fresh (index : Nat)
deriving DecidableEq, Repr

/-- What stands as the subject or the object of a triple pattern. -/
inductive Term where
  | variable (name : String)
  | iri (iri : String)
  | literal (literal : Literal)
  | blank (node : BlankNode)
deriving DecidableEq, Repr

/-- What stands as the predicate of a triple pattern. -/
inductive Predicate where
  | variable (name : String)
  | path (path : Path)
deriving Repr

/-- A triple pattern. -/
structure Triple where
  subject : Term
  predicate : Predicate
  object : Term
deriving Repr

/-- The entity that an IRI stands for. -/
def Term.entity? : Term → Option String
  | .iri i => Text.dropStart? entityNamespace i
  | _ => none

/-- Whether a term is a variable. -/
def Term.isVariable : Term → Bool
  | .variable _ => true
  | _ => false

/-- The direct property that a predicate is, once it is simplified. -/
def Predicate.property? : Predicate → Option String
  | .variable _ => none
  | .path p => p.simplify.property?

/-- The same term; literals are compared as literals. -/
def Term.same : Term → Term → Bool
  | .literal a, .literal b => a.same b
  | a, b => a == b

/-! ### Terms in messages -/

/-- A literal as it is shown inside a message. -/
def Literal.describe (l : Literal) : String :=
  let more := match l.language, l.datatype with
    | some lang, _ => ", lang=" ++ Text.quoted lang
    | none, some type => ", datatype=rdflib.term.URIRef(" ++ Text.quoted type ++ ")"
    | none, none => ""
  "rdflib.term.Literal(" ++ Text.quoted l.text ++ more ++ ")"

/-- A variable as it is shown inside a message. -/
def describeVariable (name : String) : String := "rdflib.term.Variable(" ++ Text.quoted name ++ ")"

/-- An IRI as it is shown inside a message. -/
def describeIri (iri : String) : String := "rdflib.term.URIRef(" ++ Text.quoted iri ++ ")"

/-- A term as it is shown inside a message, given how blank nodes are shown, if they are. The label
that a bracket gets is made up anew whenever the query is read, so how it is shown is not settled by
the query. -/
def Term.describe? (blank : BlankNode → Option String) : Term → Option String
  | .variable v => some (describeVariable v)
  | .iri i => some (describeIri i)
  | .literal l => some l.describe
  | .blank b => blank b

/-- A predicate as it is shown inside a message. -/
def Predicate.describe : Predicate → String
  | .variable v => describeVariable v
  | .path (.iri i) => describeIri i
  | .path p => p.describe

/-- A triple as it is shown inside a message, if its terms are shown. -/
def Triple.describe? (blank : BlankNode → Option String) (t : Triple) : Option String :=
  match t.subject.describe? blank, t.object.describe? blank with
  | some s, some o =>
    some ("Triple(subject=" ++ s ++ ", predicate=" ++ t.predicate.describe ++
      ", object=" ++ o ++ ")")
  | _, _ => none

end GraphTalk.Rdf
