import GraphTalk.Conversion.Fold
import GraphTalk.Sparql.Parse

/-!
# From tables to programs

The tables of a query become one program. A question is about one table; a selection reads its
output off one table, that of the variables it asks for.
-/

namespace GraphTalk.Conversion

open Sparql

/-- The only one of several tables. -/
def single (ts : List Table) : Except Failure Table :=
  match ts with
  | [] => .error (.unsupported .nothingToOutput)
  | [t] => .ok t
  | _ => .error (.crossTable (ts.map Table.subject))

/-- The program of a question: whether the conditions that are asked for hold of the entity. -/
def generateAsk (ts : Tables) : Except Failure TableExpression :=
  match single ts with
  | .error f => .error f
  | .ok t => match t.verifications with
    | [] => .error (.unsupported (.nothingToVerify t.subject))
    | v :: vs => match t.filters with
      | [] => .ok (.question (baseTable t.name) (.conj v vs))
      | f :: fs => .ok (.question (baseTable t.name) (.conj f (fs ++ v :: vs)))

/-- The variables that a selection needs: those it asks for, and those it aggregates. -/
def selectedVariables (q : Query) : List String :=
  let aliases := q.aggregates.map ProjectedAggregate.name
  q.aggregates.foldl (fun selected a => match a.argument? with
    | some v => if v == "" || selected.contains v then selected else selected ++ [v]
    | none => selected) (q.vars.filter fun v => !aliases.contains v)

/-- The fields of a table that a selection asks for, each once: its identity if it asks for the
subject, and the fields that variables stand for. -/
def outputFields (selected : List String) (t : Table) : List String :=
  let start := match t.variableName? with
    | some v => if selected.contains v then ["id"] else []
    | none => []
  t.projections.foldl (fun fields p =>
    if selected.contains p.name && !fields.contains p.field then fields ++ [p.field]
    else fields) start

/-- The tables that a selection asks for something of. -/
def outputs (selected : List String) (ts : Tables) : List Table :=
  ts.filter fun t => !(outputFields selected t).isEmpty

/-- The field that an aggregate is taken of, unless it is taken of the rows. -/
def aggregateField? (t : Table) (a : ProjectedAggregate) : Option String :=
  match a.argument? with
  | some v => if v == "" || t.variableName? == some v then none else t.fieldFor? v
  | none => none

/-- Rows under the conditions of a table. -/
def filtered (t : Table) (e : TableExpression) : TableExpression :=
  match t.filters with
  | [] => e
  | f :: fs => .filter e (.conj f fs)

/-- Rows in the order that a query asks for. -/
def ordered (t : Table) (q : Query) (e : TableExpression) : Except Failure TableExpression :=
  match q.order with
  | [] => .ok e
  | [o] => match o.key?.bind fun v => if v == "" then none else t.fieldFor? v with
    | some field => .ok (.sort e field o.direction)
    | none => .error (.unsupported (.orderUnprojected o))
  | order => .error (.unsupported (.orderByMany order))

/-- The program of a selection from one table. -/
def generateFrom (t : Table) (q : Query) : Except Failure TableExpression :=
  let fields := outputFields (selectedVariables q) t
  let aggregate := q.aggregates.head?
  let field := aggregate.bind (aggregateField? t)
  let e := filtered t (baseTable t.name)
  let e := if fields != ["id"] && field.isNone then .projection e fields else e
  match ordered t q e with
  | .error f => .error f
  | .ok e =>
    let e := match aggregate with
      | some a => .aggregation e a.function field
      | none => e
    .ok (match q.limit with
      | some n => .index e n
      | none => e)

/-- The program of a selection. -/
def generateSelect (ts : Tables) (q : Query) : Except Failure TableExpression :=
  if q.aggregates.length > 1 then
    .error (.unsupported (.manyAggregates (q.aggregates.map ProjectedAggregate.name)))
  else if !q.aggregates.isEmpty && !q.group.isEmpty then
    .error (.unsupported (.aggregateOverGroups q.group))
  else match single (outputs (selectedVariables q) ts) with
    | .error f => .error f
    | .ok t => generateFrom t q

/-- The program of a query whose clauses are folded into tables. -/
def generate (c : Context) (q : Query) : Except Failure Program :=
  (if q.isQuestion then generateAsk c.tables else generateSelect c.tables q).map Program.mk

section

variable {m : Type → Type} [Monad m]

/-- The query that a text stands for. -/
def readQuery (sparql : String) : ExceptT Failure m Query :=
  ExceptT.mk (pure ((Query.parse defaultNamespaces sparql).mapError Failure.rejected))

/-- Converts a query to a program. -/
def convertQuery (settings : Settings) (lookups : Knowledge.Lookups m) (q : Query)
    (keywords : List String) : ExceptT Failure m Program := do
  let c ← fold settings lookups q keywords
  ExceptT.mk (pure (generate c q))

/-- Converts a query, which is given as text, to a program. -/
def convert (settings : Settings) (lookups : Knowledge.Lookups m) (sparql : String)
    (keywords : List String) : ExceptT Failure m Program := do
  convertQuery settings lookups (← readQuery sparql) keywords

end

end GraphTalk.Conversion
