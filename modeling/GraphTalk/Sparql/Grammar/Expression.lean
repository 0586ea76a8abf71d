import GraphTalk.Sparql.Grammar.Basic

/-!
# Reading expressions

Binary operators bind in the usual order: disjunction, conjunction, comparison, sums, products. A
sign before a number inside an expression is an operator.
-/

namespace GraphTalk.Sparql

open Rdf Reader

/-- What the arguments of a built-in function look like. -/
inductive Signature where
  /-- Between two numbers of expressions. -/
  | fixed (least most : Nat)
  /-- Any number of expressions. -/
  | any
  /-- No argument. -/
  | nullary
  /-- One expression or none. -/
  | optional
  /-- A variable. -/
  | variable

/-- The built-in functions. -/
def builtins : List (String × Signature) :=
  (unary.map fun n => (n, .fixed 1 1)) ++ (binary.map fun n => (n, .fixed 2 2)) ++
  [("BOUND", .variable), ("BNODE", .optional), ("RAND", .nullary), ("NOW", .nullary),
   ("UUID", .nullary), ("STRUUID", .nullary), ("CONCAT", .any), ("COALESCE", .any),
   ("IF", .fixed 3 3), ("REGEX", .fixed 2 3), ("SUBSTR", .fixed 2 3), ("REPLACE", .fixed 3 4)]
where
  /-- The functions of one argument. -/
  unary : List String :=
    ["STR", "LANG", "DATATYPE", "IRI", "URI", "ABS", "CEIL", "FLOOR", "ROUND", "STRLEN", "UCASE",
     "LCASE", "ENCODE_FOR_URI", "YEAR", "MONTH", "DAY", "HOURS", "MINUTES", "SECONDS", "TIMEZONE",
     "TZ", "MD5", "SHA1", "SHA256", "SHA384", "SHA512", "ISIRI", "ISURI", "ISBLANK", "ISLITERAL",
     "ISNUMERIC"]
  /-- The functions of two arguments. -/
  binary : List String :=
    ["LANGMATCHES", "CONTAINS", "STRSTARTS", "STRENDS", "STRBEFORE", "STRAFTER", "STRLANG",
     "STRDT", "SAMETERM"]

/-- The arguments of a built-in function. -/
def builtinArguments (inner : Nested) : Signature → Reader (List Expression)
  | .fixed least most => do
    let es ← between "(" ")" (separated "," inner.expression)
    if least ≤ es.length ∧ es.length ≤ most then return es else failure
  | .any =>
    (do emptyList; return [.iri rdfNil]) <|> between "(" ")" (separated "," inner.expression)
  | .nullary => do emptyList; return []
  | .optional => (do return [← between "(" ")" inner.expression]) <|> (do emptyList; return [])
  | .variable => do return [.variable (← between "(" ")" variableName)]

/-- The aggregates by their words. -/
def aggregateKinds : List (String × AggregateKind) :=
  [("COUNT", .count), ("SUM", .sum), ("MIN", .min), ("MAX", .max), ("AVG", .avg),
   ("SAMPLE", .sample), ("GROUP_CONCAT", .groupConcat)]

/-- The argument of an aggregate, between its brackets. Only a count takes everything, and only a
concatenation takes a separator. -/
def aggregateArgument (inner : Nested) (kind : AggregateKind) : Reader Expression := do
  symbol "("
  let distinct := (← maybe (keyword "DISTINCT")).isSome
  let argument ← (do
      if kind = .count then symbol "*" else failure
      return none) <|> (some <$> inner.expression)
  if kind = .groupConcat then
    let _ ← maybe (do
      symbol ";"
      keyword "SEPARATOR"
      symbol "="
      string)
  symbol ")"
  return .aggregate kind distinct argument

/-- An aggregate, a built-in function, or a test for the solutions of a pattern. -/
def builtinCall (inner : Nested) : Reader Expression := do
  let name ← word
  match aggregateKinds.lookup name with
  | some kind => aggregateArgument inner kind
  | none => match builtins.lookup name with
    | some signature => return .apply (← builtinArguments inner signature)
    | none =>
      if name == "NOT" then keyword "EXISTS"
      else if name != "EXISTS" then failure
      return .exists_ (← inner.group).vars

/-- The arguments of a function that an IRI names. -/
def argumentList (inner : Nested) : Reader (List Expression) :=
  (do emptyList; return []) <|>
  between "(" ")" (do
    let _ ← maybe (keyword "DISTINCT")
    separated "," inner.expression)

/-- A call of a function that an IRI names. -/
def functionCall (inner : Nested) : Reader Expression := do
  let name ← iri
  let arguments ← argumentList inner
  return .apply (.iri name :: arguments)

/-- An expression without operators outside of brackets. -/
def primaryExpression (inner : Nested) : Reader Expression :=
  firstOf
    [between "(" ")" inner.expression,
     builtinCall inner,
     functionCall inner,
     Expression.iri <$> iri,
     Expression.literal <$> literal,
     Expression.variable <$> variableName]

/-- An expression with at most one sign before it. -/
def unaryExpression (inner : Nested) : Reader Expression :=
  (do
    symbol "!" <|> symbol "+" <|> symbol "-"
    return .apply [← primaryExpression inner]) <|>
  primaryExpression inner

/-- Operands with one of several operators between each two; a single operand is itself. -/
def chain (operators : List String) (operand : Reader Expression) : Reader Expression := do
  let first ← operand
  let others ← many (do firstOf (operators.map symbol); operand)
  return if others.isEmpty then first else .apply (first :: others)

/-- A sum of products. -/
def numericExpression (inner : Nested) : Reader Expression :=
  chain ["+", "-"] (chain ["*", "/"] (unaryExpression inner))

/-- What may stand to the right of an expression in a comparison, with the operator before it. -/
def comparisonTail (inner : Nested) (left : Expression) : Reader Expression :=
  firstOf
    ((["=", "!=", "<", ">", "<=", ">="].map fun op => do
        symbol op
        return .compare left op (← numericExpression inner)) ++
     [do keyword "IN"; return .member left "IN" (← items),
      do keyword "NOT"; keyword "IN"; return .member left "NOT IN" (← items)])
where
  /-- The list of expressions on the right. -/
  items : Reader (List Expression) :=
    (do emptyList; return []) <|> between "(" ")" (separated "," inner.expression)

/-- A comparison, or a sum alone. -/
def comparison (inner : Nested) : Reader Expression := do
  let left ← numericExpression inner
  comparisonTail inner left <|> return left

/-- A conjunction of comparisons. -/
def conjunction (inner : Nested) : Reader Expression := do
  let first ← comparison inner
  let others ← many (do symbol "&&"; comparison inner)
  return .conjunction first others

/-- An expression. -/
def expression (inner : Nested) : Reader Expression := chain ["||"] (conjunction inner)

/-- A condition of a filter or on groups: an expression in brackets, or a call. -/
def constraint (inner : Nested) : Reader Expression :=
  firstOf [between "(" ")" inner.expression, builtinCall inner, functionCall inner]

end GraphTalk.Sparql
