import GraphTalk.Sparql.Grammar.Query
import GraphTalk.Sparql.Query

/-!
# From text to queries

The algebra of a query as it is written, and the query that a text stands for.

Grouping happens when it is asked for or when an aggregate occurs. Aggregates are then replaced by
the variables that hold their results, numbered in the order of the projection, the conditions on
groups, and the order of the solutions; each plain variable that is projected is a sample.
-/

namespace GraphTalk.Sparql

open Rdf

/-- Whether the solutions of a query are grouped. -/
def isGrouped (items : List ProjectionItem) (m : SolutionModifiers) : Bool :=
  m.groupBy.isSome || Expression.anyHasAggregate m.having ||
  Expression.anyHasAggregate ((m.orderBy.getD []).map OrderKey.expression) ||
  items.any fun
    | .variable _ => false
    | .computed e _ => e.hasAggregate

/-- The name of a grouping key. An expression without a name is known by what it is. -/
def GroupKey.name : GroupKey → String
  | .variable v => v
  | .expression _ => "expression"
  | .named _ (some v) => v
  | .named _ none => "None"

/-- Computes a named grouping key before the grouping. -/
def GroupKey.extendWith (p : Algebra) : GroupKey → Algebra
  | .named e v => .extend (v.getD "None") e p
  | _ => p

/-- Numbers the aggregates in what is projected. -/
def extractItems (found : List Aggregate) :
    List ProjectionItem → List ProjectionItem × List Aggregate
  | [] => ([], found)
  | .variable v :: rest =>
    let (rest, found) := extractItems found rest
    (.variable v :: rest, found)
  | .computed e v :: rest =>
    let (e, found) := e.extract (some v) found
    let (rest, found) := extractItems found rest
    (.computed e v :: rest, found)

/-- Numbers the aggregates in the keys of an order, if there are any. -/
def extractOrder (found : List Aggregate) (keys : List OrderKey) :
    List OrderKey × List Aggregate :=
  if keys.any fun k => k.expression.hasAggregate then
    let (es, found) := Expression.extractAll none found (keys.map OrderKey.expression)
    (List.zipWith (fun e k => { k with expression := e }) es keys, found)
  else (keys, found)

/-- Samples the plain variables that are projected, and gives each sample the name of its
variable. -/
def sampleVariables (found : List Aggregate) :
    List ProjectionItem → List (String × Expression) × List Aggregate
  | [] => ([], found)
  | .variable v :: rest =>
    let (name, found) := register .sample false (some v) found
    let (more, found) := sampleVariables found rest
    ((v, .variable name) :: more, found)
  | .computed _ _ :: rest => sampleVariables found rest

/-- Computes named values one after the other. -/
def Algebra.extendAll (p : Algebra) (values : List (String × Expression)) : Algebra :=
  values.foldl (fun p x => .extend x.1 x.2 p) p

/-- A pattern under the conditions on its groups. -/
def Algebra.having (p : Algebra) : List Expression → Algebra
  | [] => p
  | e :: es => .filter (.conjunction e es) p

/-- The values that a projection computes. -/
def computedItems (items : List ProjectionItem) : List (String × Expression) :=
  items.filterMap fun
    | .variable _ => none
    | .computed e v => some (v, e)

/-- The algebra of a pattern with solution modifiers. -/
def modified (pattern : Algebra) (distinct : Bool) (items : List ProjectionItem)
    (m : SolutionModifiers) : Algebra :=
  let order := m.orderBy.getD []
  let (p, items, order) :=
    if isGrouped items m then
      let keys := m.groupBy.getD []
      let grouped := Algebra.group (keys.map GroupKey.name) (keys.foldl GroupKey.extendWith pattern)
      let (items, found) := extractItems [] items
      let (having, found) := Expression.extractAll none found m.having
      let (order, found) := extractOrder found order
      let (samples, found) := sampleVariables found items
      (((Algebra.aggregateJoin found grouped).extendAll samples).having having, items, order)
    else (pattern.having m.having, items, order)
  let p := if m.values then p.joined .multiset else p
  let p := p.extendAll (computedItems items)
  let p := if m.orderBy.isSome then .orderBy order p else p
  let p := Algebra.project p
  let p := if distinct then .distinct p else p
  if m.limit.isSome || m.offset.isSome then .slice (m.offset.getD 0) m.limit p else p

/-- Each text once, in order. -/
def sortedNames (names : List String) : List String :=
  names.eraseDups.mergeSort fun a b => a ≤ b

/-- The query that a text stands for. A text that cannot be read is told before a form that is
not supported, and that before a name without a namespace. -/
def Query.parse (namespaces : Namespaces) (text : String) : Except Rejection Query :=
  match readQuery? namespaces text with
  | none => .error .malformed
  | some (q, cursor) =>
    if cursor.malformed then .error .malformed
    else match q.form with
      | .construct => .error (.form "ConstructQuery")
      | .describe => .error (.form "DescribeQuery")
      | .select _ [] => .error .selectsAll
      | .select distinct items =>
        if cursor.unresolved then .error .malformed
        else Query.ofAlgebra .select (items.map ProjectionItem.name)
          (modified q.pattern.algebra distinct items q.modifiers)
      | .ask =>
        if cursor.unresolved then .error .malformed
        else Query.ofAlgebra .ask (sortedNames q.pattern.vars)
          (modified q.pattern.algebra false [] q.modifiers)

end GraphTalk.Sparql
