import GraphTalk.Sparql.Grammar.Basic

/-!
# Reading property paths
-/

namespace GraphTalk.Sparql

open Rdf Reader

/-- The word `a` as a predicate. -/
def rdfType : Reader String := do
  symbol "a"
  return rdfNamespace ++ "type"

/-- One member of a negated set. -/
def pathInSet : Reader Path := do
  (do return .iri (← iri <|> rdfType)) <|>
  (do
    symbol "^"
    return .inverse (.iri (← iri <|> rdfType)))

/-- A negated set, behind its mark. The empty set has no path and is noted. -/
def negatedSet : Reader Path :=
  (do return .negated [← pathInSet]) <|>
  (do
    let choices ← between "(" ")" (maybe (separated "|" pathInSet))
    match choices with
    | some ps => return .negated ps
    | none =>
      modify fun c => { c with unresolved := true }
      return .negated [])

/-- A path without operators outside of brackets. -/
def pathPrimary (inner : Nested) : Reader Path :=
  firstOf
    [Path.iri <$> (iri <|> rdfType),
     do symbol "!"; negatedSet,
     between "(" ")" inner.path]

/-- The sign of a repetition, right behind its path. -/
def repetition : Reader Repetition :=
  scan fun
    | '?' :: rest => some (.optional, rest)
    | '*' :: rest => some (.star, rest)
    | '+' :: rest => some (.plus, rest)
    | _ => none

/-- A path that may be repeated. -/
def pathElement (inner : Nested) : Reader Path := do
  let p ← pathPrimary inner
  match ← maybe repetition with
  | some times => return .repeated p times
  | none => return p

/-- A path that may be inverted. -/
def pathStep (inner : Nested) : Reader Path :=
  pathElement inner <|> (do symbol "^"; return .inverse (← pathElement inner))

/-- Paths one after the other. -/
def pathSequence (inner : Nested) : Reader Path := do
  match ← separated "/" (pathStep inner) with
  | [p] => return p
  | ps => return .seq ps

/-- A property path. -/
def path (inner : Nested) : Reader Path := do
  match ← separated "|" (pathSequence inner) with
  | [p] => return p
  | ps => return .alt ps

end GraphTalk.Sparql
