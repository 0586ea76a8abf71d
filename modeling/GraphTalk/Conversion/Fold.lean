import GraphTalk.Conversion.Resolve
import GraphTalk.Utterance.Span

/-!
# Folding clauses into tables

Each clause of a query is folded into the tables of its subjects: a variable as object makes a
field stand for it, a type sets the table, and everything else is a condition.
-/

namespace GraphTalk.Conversion

open Rdf Sparql Knowledge

/-- A condition on a subject. -/
structure Atom where
  subject : String
  condition : Condition
  /-- Whether the condition is what a question asks for. -/
  verification : Bool := false

/-- The tables of a query, with the spans they were made with. -/
structure Context where
  spans : List String
  isQuestion : Bool
  tables : Tables

/-- The name of a subject. -/
def subjectKey (t : Term) : Except Unsupported String :=
  match t with
  | .variable v => .ok ("?" ++ v)
  | _ => match t.entity? with
    | some e => .ok e
    | none => .error (.foreignSubject t)

section

variable {m : Type → Type} [Monad m]

/-- Fails with an unsupported construct. -/
def refuse {α : Type} (reason : Unsupported) : ExceptT Failure m α := throw (.unsupported reason)

/-- Goes on unless a construct is unsupported. -/
def supported {α : Type} : Except Unsupported α → ExceptT Failure m α
  | .ok a => return a
  | .error reason => refuse reason

/-- A table for a new subject; that of an entity has the name of the entity's domain. -/
def newTable (sc : Scope m) (subject : String) : ExceptT Failure m Table :=
  if (Text.dropStart? "?" subject).isSome then return { subject }
  else do
    match sc.settings.schema.domainTable? (← ask (sc.lookups.domain subject)) with
    | some name => return { subject, name }
    | none => return { subject }

/-- The table of a subject, which is made if there is none. -/
def openTable (sc : Scope m) (ts : Tables) (subject : String) :
    ExceptT Failure m (Tables × Table) :=
  match ts.find? subject with
  | some t => return (ts, t)
  | none => do
    let t ← newTable sc subject
    return (ts ++ [t], t)

/-- Adds a condition to the table of its subject. -/
def attach (sc : Scope m) (ts : Tables) (a : Atom) : ExceptT Failure m Tables := do
  let (ts, t) ← openTable sc ts a.subject
  if a.verification then return ts.put (← supported (t.addVerification a.condition))
  else return ts.put (t.addFilter a.condition)

/-- Adds conditions to the tables of their subjects. -/
def attachAll (sc : Scope m) (ts : Tables) : List Atom → ExceptT Failure m Tables
  | [] => return ts
  | a :: as => do attachAll sc (← attach sc ts a) as

/-- Sets the table of a variable whose type is given. -/
def setType (sc : Scope m) (t : Table) (object : Term) : ExceptT Failure m Table :=
  match sc.settings.schema.domainTable? object.entity? with
  | some name => supported (t.setName name)
  | none => refuse (.unknownDomain object.entity? object)

/-- The table of the subject of a triple. An entity is known to be itself. -/
def openSubject (sc : Scope m) (ts : Tables) (t : Term) (subject : String) :
    ExceptT Failure m (Tables × Table) := do
  let (ts, table) ← openTable sc ts subject
  if t.isVariable then return (ts, table)
  else return (ts, table.addFilter (← identity sc subject))

/-- Folds a triple into the table of its subject. The condition that it stands for, if any, is
left to be added. -/
def foldTriple (sc : Scope m) (ts : Tables) (t : Triple) :
    ExceptT Failure m (Tables × Option Atom) := do
  let subject ← supported (subjectKey t.subject)
  match t.predicate.property? with
  | none => refuse (.foreignPredicate t.predicate)
  | some property =>
    let (ts, table) ← openSubject sc ts t.subject subject
    match t.object with
    | .variable v => match sc.settings.schema.fieldName? property with
      | none => refuse (.unknownProperty property)
      | some field => return (ts.put (← supported (table.addProjection ⟨v, field⟩)), none)
    | object =>
      if t.subject.isVariable && property == instanceOf then
        return (ts.put (← setType sc table object), none)
      else
        let condition ← atom sc property object
        let verification := !t.subject.isVariable && sc.isQuestion
        return (ts.put table, some { subject, condition, verification })

/-- Folds triples one after the other and collects the conditions they stand for. -/
def foldTriples (sc : Scope m) (ts : Tables) : List Triple →
    ExceptT Failure m (Tables × List Atom)
  | [] => return (ts, [])
  | t :: rest => do
    let (ts, a) ← foldTriple sc ts t
    let (ts, as) ← foldTriples sc ts rest
    return (ts, a.toList ++ as)

/-- Folds a basic pattern: all its triples, then the conditions they stand for. -/
def foldBasic (sc : Scope m) (ts : Tables) (triples : List Triple) :
    ExceptT Failure m Tables := do
  let (ts, as) ← foldTriples sc ts triples
  attachAll sc ts as

/-- Folds the triples of a branch, which must stand for a condition. -/
def foldBranch (sc : Scope m) (ts : Tables) (triples : List Triple) :
    ExceptT Failure m (Tables × Atom × List Atom) := do
  let (ts, as) ← foldTriples sc ts triples
  match as with
  | [] => refuse (.branchWithoutFilter triples)
  | a :: as => return (ts, a, as)

/-- Fails unless all conditions are on one subject. -/
def sameSubject (subject : String) : List Atom → Except Failure Unit
  | [] => .ok ()
  | a :: as =>
    if a.subject == subject then sameSubject subject as
    else .error (.ambiguousSubject subject a.subject)

/-- The conjunction of the conditions of a branch. -/
def branchCondition (first : Atom) (others : List Atom) : Condition :=
  .conj first.condition (others.map Atom.condition)

/-- Folds a union of two basic patterns: the disjunction of what the branches stand for is a
condition on their subject. -/
def foldBranches (sc : Scope m) (ts : Tables) (left right : List Triple) :
    ExceptT Failure m Tables := do
  let (ts, a, as) ← foldBranch sc ts left
  ExceptT.mk (pure (sameSubject a.subject as))
  let (ts, b, bs) ← foldBranch sc ts right
  ExceptT.mk (pure (sameSubject a.subject (b :: bs)))
  attach sc ts
    { subject := a.subject
      condition := .any [branchCondition a as, branchCondition b bs]
      verification := (a :: as ++ b :: bs).any Atom.verification }

/-- Folds a union. One that only widens a triple reads as that triple. -/
def foldUnion (sc : Scope m) (ts : Tables) (branches : List Branch) :
    ExceptT Failure m Tables :=
  match widenedTriple? branches with
  | some t => foldBasic sc ts [t]
  | none => match branches.map Branch.basic? with
    | [some left, some right] => foldBranches sc ts left right
    | _ => refuse (.union branches)

/-- Folds a clause. -/
def foldClause (sc : Scope m) (ts : Tables) : Clause → ExceptT Failure m Tables
  | .basic triples => foldBasic sc ts triples
  | .union branches => foldUnion sc ts branches
  | .filter e => refuse (.filter e)

/-- Folds clauses one after the other. -/
def foldClauses (sc : Scope m) (ts : Tables) : List Clause → ExceptT Failure m Tables
  | [] => return ts
  | c :: cs => do foldClauses sc (← foldClause sc ts c) cs

end

/-! ### Conditions on groups -/

/-- The operator that a bound on a group is written with: strict bounds become weak ones. -/
def havingOperator? : String → Option String
  | ">" => some ">="
  | ">=" => some ">="
  | "<" => some "<="
  | "<=" => some "<="
  | "=" => some "=="
  | _ => none

/-- Folds a condition on groups into the table of the variable that is counted. -/
def foldHaving (ts : Tables) (c : HavingCondition) : Except Failure Tables :=
  match c.function, c.argument?, c.operator, c.threshold with
  | some "count", some v, some op, some n => match havingOperator? op with
    | none => .error (.unsupported (.havingOperator op))
    | some op => match ts.ownerOf? v with
      | none => .error (.unsupported (.havingVariable v))
      | some (t, field) => .ok (ts.put (t.addFilter (.aggregate "count" field op n)))
  | _, _, _, _ => .error (.unsupported (.having c.expression))

/-- Folds conditions on groups one after the other. -/
def foldHavings (ts : Tables) : List HavingCondition → Except Failure Tables
  | [] => .ok ts
  | c :: cs => match foldHaving ts c with
    | .error f => .error f
    | .ok ts => foldHavings ts cs

/-- Folds the conditions on groups of a query, which may be grouped by one key. -/
def foldGroups (ts : Tables) (q : Query) : Except Failure Tables :=
  if q.group.length > 1 then .error (.unsupported (.groupByMany q.group))
  else foldHavings ts q.having

/-! ### Queries -/

/-- Folds a query into a fresh set of tables. -/
def fold {m : Type → Type} [Monad m] (settings : Settings) (lookups : Lookups m) (q : Query)
    (keywords : List String) : ExceptT Failure m Context := do
  let spans := Utterance.keywordSpans keywords
  let sc : Scope m := { settings, lookups, spans, isQuestion := q.isQuestion }
  let ts ← foldClauses sc [] q.clauses
  let ts ← ExceptT.mk (pure (foldGroups ts q))
  return { spans, isQuestion := q.isQuestion, tables := ts }

end GraphTalk.Conversion
