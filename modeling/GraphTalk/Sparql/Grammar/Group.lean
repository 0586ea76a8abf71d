import GraphTalk.Sparql.Grammar.Expression
import GraphTalk.Sparql.Grammar.Triples

/-!
# Reading group graph patterns and solution modifiers
-/

namespace GraphTalk.Sparql

open Rdf Reader

/-! ### Solution modifiers -/

/-- What a selection asks for: a variable, or an expression under a name. -/
inductive ProjectionItem where
  | variable (name : String)
  | computed (expression : Expression) (name : String)

/-- The variable that an item is asked for as. -/
def ProjectionItem.name : ProjectionItem → String
  | .variable v => v
  | .computed _ v => v

/-- What solutions are grouped by: a variable, an expression, or one with a name for it. -/
inductive GroupKey where
  | variable (name : String)
  | expression (expression : Expression)
  | named (expression : Expression) (name : Option String)

/-- What stands behind the pattern of a query. -/
structure SolutionModifiers where
  groupBy : Option (List GroupKey) := none
  having : List Expression := []
  orderBy : Option (List OrderKey) := none
  limit : Option Nat := none
  offset : Option Nat := none
  /-- Whether solutions are given as data. -/
  values : Bool := false

/-- A name behind an expression. -/
def asName : Reader String := do
  keyword "AS"
  variableName

/-- One thing that is asked for. -/
def projectionItem (inner : Nested) : Reader ProjectionItem :=
  (ProjectionItem.variable <$> variableName) <|>
  between "(" ")" (do
    let e ← inner.expression
    return .computed e (← asName))

/-- What a selection asks for, behind its keyword: nothing in particular, or a list; and whether
repeated solutions are dropped. -/
def selectClause (inner : Nested) : Reader (Bool × List ProjectionItem) := do
  keyword "SELECT"
  let distinct := (← maybe (keyword "DISTINCT" <|> keyword "REDUCED")).isSome
  let items ← some1 (projectionItem inner) <|> (do symbol "*"; return [])
  return (distinct, items)

/-- One key of a grouping. -/
def groupKey (inner : Nested) : Reader GroupKey :=
  firstOf
    [GroupKey.expression <$> builtinCall inner,
     GroupKey.expression <$> functionCall inner,
     between "(" ")" (do
       let e ← inner.expression
       return .named e (← maybe asName)),
     GroupKey.variable <$> variableName]

/-- One key of an order. -/
def orderKey (inner : Nested) : Reader OrderKey :=
  firstOf
    [do keyword "ASC"; return ⟨← between "(" ")" inner.expression, false⟩,
     do keyword "DESC"; return ⟨← between "(" ")" inner.expression, true⟩,
     do return ⟨← constraint inner, false⟩,
     do return ⟨.variable (← variableName), false⟩]

/-- The largest number of solutions. -/
def limitClause : Reader Nat := do
  keyword "LIMIT"
  natural

/-- The number of solutions to skip. -/
def offsetClause : Reader Nat := do
  keyword "OFFSET"
  natural

/-- The bounds on the solutions, in either order. -/
def bounds : Reader (Option Nat × Option Nat) :=
  firstOf
    [do
       let limit ← limitClause
       return (some limit, ← maybe offsetClause),
     do
       let offset ← offsetClause
       return (← maybe limitClause, some offset),
     return (none, none)]

/-- A value among data. -/
def dataValue : Reader Unit :=
  firstOf
    [do let _ ← iri,
     do let _ ← literal,
     keyword "UNDEF"]

/-- Solutions given as data: the variables, and whether there is any variable or row. -/
def dataBlock : Reader (List String × Bool) :=
  (do
    let v ← variableName
    let _ ← between "\x7b" "\x7d" (many dataValue)
    return ([v], true)) <|>
  (do
    let vs ← (do emptyList; return []) <|> between "(" ")" (many variableName)
    let rows ← between "\x7b" "\x7d"
      (many (emptyList <|> between "(" ")" (do let _ ← many dataValue)))
    return (vs, !vs.isEmpty || !rows.isEmpty))

/-- What stands behind the pattern of a query. -/
def solutionModifiers (inner : Nested) : Reader SolutionModifiers := do
  let groupBy ← maybe (do
    keyword "GROUP"
    keyword "BY"
    some1 (groupKey inner))
  let having ← maybe (do
    keyword "HAVING"
    some1 (constraint inner))
  let orderBy ← maybe (do
    keyword "ORDER"
    keyword "BY"
    some1 (orderKey inner))
  let (limit, offset) ← bounds
  let values ← maybe (do
    keyword "VALUES"
    dataBlock)
  return { groupBy, having := having.getD [], orderBy, limit, offset,
           values := (values.map (·.2)).getD false }

/-! ### Groups -/

/-- A part of a group with the variables in it. -/
abbrev PartWithVariables := GroupPart × List String

/-- The variables of triples. -/
def tripleVariables (ts : List Triple) : List String :=
  ts.flatMap fun t => t.unknowns.filterMap fun
    | .variable v => some v
    | .blank _ => none

/-- A run of triples. -/
def triplesPart (inner : Nested) : Reader PartWithVariables := do
  let ts ← triplesBlock inner true
  return (.triples ts, tripleVariables ts)

/-- A variable or an IRI that names a graph or a service. -/
def graphName : Reader (List String) :=
  (do return [← variableName]) <|> (do let _ ← iri; return [])

/-- A part of a group other than triples. -/
def otherPart (inner : Nested) : Reader PartWithVariables :=
  firstOf
    [do
       let gs ← separatedBy (keyword "UNION") inner.group
       return (.pattern (.ofAlternatives (gs.map (·.algebra))), gs.flatMap (·.vars)),
     do
       keyword "OPTIONAL"
       let g ← inner.group
       return (.optional g.algebra, g.vars),
     do
       keyword "MINUS"
       let g ← inner.group
       return (.minus g.algebra, g.vars),
     do
       keyword "GRAPH"
       let name ← graphName
       let g ← inner.group
       return (.pattern (.graph g.algebra), name ++ g.vars),
     do
       keyword "SERVICE"
       let _ ← maybe (keyword "SILENT")
       let name ← graphName
       let g ← inner.group
       return (.pattern .service, name ++ g.vars),
     do
       keyword "FILTER"
       let e ← constraint inner
       return (.filter e, e.vars),
     do
       keyword "BIND"
       let (e, v) ← between "(" ")" (do
         let e ← inner.expression
         return (e, ← asName))
       return (.bind v e, [v]),
     do
       keyword "VALUES"
       let (vs, _) ← dataBlock
       return (.pattern .multiset, vs)]

/-- A selection inside a query: only what it asks for is seen from outside. -/
def subSelect (inner : Nested) : Reader GroupPattern := do
  let (_, items) ← selectClause inner
  let _ ← maybe (keyword "WHERE")
  let _ ← inner.group
  let _ ← solutionModifiers inner
  return { algebra := .multiset, vars := items.map ProjectionItem.name }

/-- The parts of a group. -/
def groupParts (inner : Nested) : Reader GroupPattern := do
  let first ← maybe (triplesPart inner)
  let rest ← many (do
    let part ← otherPart inner
    let _ ← maybe (symbol ".")
    let triples ← maybe (triplesPart inner)
    return part :: triples.toList)
  let parts := first.toList ++ rest.flatten
  return { algebra := .ofGroup (parts.map (·.1)), vars := parts.flatMap (·.2) }

/-- A group graph pattern. -/
def group (inner : Nested) : Reader GroupPattern :=
  between "\x7b" "\x7d" (subSelect inner <|> groupParts inner)

/-! ### Tying the knot -/

/-- The readers for what may nest to a given depth. -/
def Nested.ofDepth : Nat → Nested
  | 0 => .none
  | depth + 1 =>
    let inner := Nested.ofDepth depth
    { expression := Sparql.expression inner
      path := Sparql.path inner
      node := Sparql.node inner
      group := Sparql.group inner }

end GraphTalk.Sparql
