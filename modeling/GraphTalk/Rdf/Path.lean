import GraphTalk.Text.Blank

/-!
# Property paths

A property path is built from IRIs by sequence, alternative, repetition, inversion and negation.

`Path.simplify` drops the suffixes of a path that do not change how a question reads: instance of
a subclass is read as instance, and located in through any number of steps as located in.
-/

namespace GraphTalk.Rdf

/-- How often a path may be followed. -/
inductive Repetition where
  /-- Any number of times. -/
  | star
  /-- Once or more. -/
  | plus
  /-- At most once. -/
  | optional
deriving DecidableEq, Repr

/-- The sign of a repetition. -/
def Repetition.sign : Repetition → String
  | .star => "*"
  | .plus => "+"
  | .optional => "?"

/-- A property path. -/
inductive Path where
  | iri (iri : String)
  | sequence (steps : List Path)
  | alternative (choices : List Path)
  | repeated (path : Path) (times : Repetition)
  | inverse (path : Path)
  | negated (choices : List Path)
deriving Repr

namespace Path

/-- A sequence of paths; the steps of a path that is itself a sequence are taken over. -/
def seq (paths : List Path) : Path :=
  .sequence (paths.flatMap fun
    | .sequence steps => steps
    | p => [p])

/-- A choice of paths; the choices of a path that is itself a choice are taken over. -/
def alt (paths : List Path) : Path :=
  .alternative (paths.flatMap fun
    | .alternative choices => choices
    | p => [p])

mutual

/-- Structural equality. -/
def same : Path → Path → Bool
  | .iri a, .iri b => a == b
  | .sequence ps, .sequence qs => sameAll ps qs
  | .alternative ps, .alternative qs => sameAll ps qs
  | .repeated p t, .repeated q u => t == u && p.same q
  | .inverse p, .inverse q => p.same q
  | .negated ps, .negated qs => sameAll ps qs
  | _, _ => false

/-- Equality step by step. -/
def sameAll : List Path → List Path → Bool
  | [], [] => true
  | p :: ps, q :: qs => p.same q && sameAll ps qs
  | _, _ => false

end

mutual

/-- A path as it stands inside another one: an IRI is plain text. -/
def describe : Path → String
  | .iri i => i
  | .sequence ps => "Path(" ++ String.intercalate " / " (describeAll ps) ++ ")"
  | .alternative ps => "Path(" ++ String.intercalate " | " (describeAll ps) ++ ")"
  | .repeated p t => "Path(" ++ p.describe ++ t.sign ++ ")"
  | .inverse p => "Path(~" ++ p.describe ++ ")"
  | .negated ps => "Path(! " ++ String.intercalate "," (describeAll ps) ++ ")"

/-- Paths as they stand inside another one. -/
def describeAll : List Path → List String
  | [] => []
  | p :: ps => p.describe :: describeAll ps

end

end Path

/-! ### Entities and properties -/

/-- Where the IRIs of entities start. -/
def entityNamespace : String := "http://www.wikidata.org/entity/"

/-- Where the IRIs of direct properties start. -/
def propertyNamespace : String := "http://www.wikidata.org/prop/direct/"

/-- The property that ties an entity to its types. -/
def instanceOf : String := "P31"

namespace Path

/-- The property that a path is, if it is a direct property alone. -/
def property? : Path → Option String
  | .iri i => Text.dropStart? propertyNamespace i
  | _ => none

/-- Whether a path is a given direct property. -/
def isProperty (p : Path) (id : String) : Bool := p.property? == some id

/-- Whether a path is any number of steps to a broader class. -/
def isSubclassClosure : Path → Bool
  | .repeated p .star => p.isProperty "P279"
  | _ => false

mutual

/-- A path without the suffixes that do not change how a question reads. -/
def simplify : Path → Path
  | .sequence [first, second] =>
    if first.isProperty instanceOf && second.isSubclassClosure then first
    else seq [first.simplify, second.simplify]
  | .sequence steps => seq (simplifyAll steps)
  | .repeated p .plus => if p.isProperty "P131" then p else .repeated p .plus
  | p => p

/-- Each of several paths without such suffixes. -/
def simplifyAll : List Path → List Path
  | [] => []
  | p :: ps => p.simplify :: simplifyAll ps

end

end Path

end GraphTalk.Rdf
