import GraphTalk.Knowledge.Lookups
import GraphTalk.Program.Node
import GraphTalk.Schema.FieldType
import GraphTalk.Sparql.Query

/-!
# Failures of a conversion

Why a query has no program. Every reason carries what it is about; the wording is in one place.
What is not the program's own in a wording is a parameter of it, its phrasing.
-/

namespace GraphTalk.Conversion

open Rdf Sparql

/-- A variable of a query that stands for a field of a table. -/
structure Projection where
  name : String
  field : String
deriving DecidableEq, Repr

/-- The constructs that programs cannot express. -/
inductive Unsupported where
  | conflictingDomains (subject old new : String)
  | projectionOnVerified (subject : String) (projection : Projection)
  | verificationOnProjected (subject : String) (condition : Condition)
  | filter (condition : Expression)
  | union (branches : List Branch)
  | branchWithoutFilter (triples : List Triple)
  | groupByMany (keys : List String)
  | having (condition : Expression)
  | havingOperator (operator : String)
  | havingVariable (name : String)
  | nothingToOutput
  | nothingToVerify (subject : String)
  | manyAggregates (aliases : List String)
  | aggregateOverGroups (keys : List String)
  | orderByMany (order : List OrderCondition)
  | orderUnprojected (order : OrderCondition)
  | entityExpected (type : FieldType) (term : Term)
  | literalExpected (type : FieldType) (term : Term)
  | unknownProperty (property : String)
  | unknownDomain (domain : Option String) (term : Term)
  | foreignSubject (term : Term)
  | foreignPredicate (predicate : Predicate)

/-- Why a conversion fails. -/
inductive Failure where
  /-- The query cannot be worked with. -/
  | rejected (reason : Rejection)
  | unsupported (reason : Unsupported)
  /-- A union speaks of two subjects. -/
  | ambiguousSubject (first second : String)
  /-- The answer is spread over tables. -/
  | crossTable (subjects : List String)
  /-- An entity has no name. -/
  | unresolvedLabel (entity : String)
  /-- There is no such measure of similarity. -/
  | unknownMode (name : String)
  /-- A keyword or a label is not a text. -/
  | notText
  /-- The knowledge base could not be worked with. -/
  | lookup (fault : Knowledge.Fault)

/-! ### Kinds -/

/-- The kinds of failure that a conversion declares, and one for batches. -/
inductive Kind where
  | unsupportedConstruct
  | ambiguousSubject
  | crossTableUnsupported
  | unresolvedEntityLabel
  /-- The knowledge base was failing while an example was dropped. -/
  | knowledgeBaseUnavailable
  /-- The query was not readable, or something else went wrong. -/
  | parseError
deriving DecidableEq, Repr

/-- The word for a kind of failure. -/
def Kind.word : Kind → String
  | .unsupportedConstruct => "unsupported_construct"
  | .ambiguousSubject => "ambiguous_subject"
  | .crossTableUnsupported => "cross_table_unsupported"
  | .unresolvedEntityLabel => "unresolved_entity_label"
  | .knowledgeBaseUnavailable => "knowledge_base_unavailable"
  | .parseError => "parse_error"

/-- The kind of a failure. -/
def Failure.kind : Failure → Kind
  | .rejected .malformed => .parseError
  | .rejected _ => .unsupportedConstruct
  | .unsupported _ => .unsupportedConstruct
  | .ambiguousSubject _ _ => .ambiguousSubject
  | .crossTable _ => .crossTableUnsupported
  | .unresolvedLabel _ => .unresolvedEntityLabel
  | .unknownMode _ => .parseError
  | .notText => .parseError
  | .lookup _ => .parseError

/-- Whether a failure is one that a conversion declares. -/
def Failure.isDeclared (f : Failure) : Bool := f.kind != .parseError

/-! ### Phrasing -/

/-- The texts in messages that come from elsewhere: from the library that reads queries, and from
whatever raised an error that a conversion does not declare. A message leaves out what has no
text. -/
structure Phrasing where
  /-- How a blank node is shown. Of one that a query labels this is always the same; a bracket has a
  label that is made up anew at each reading, so two readings of one query differ in it. -/
  blank : BlankNode → Option String
  /-- How the expression, or the union with conditions in it, is shown that a declared failure is
  about; of any other failure, all that is said of it. It is settled by the query as well, but for
  the brackets in patterns inside of expressions. -/
  foreign : Failure → Option String

/-- The phrasing that leaves out all that comes from elsewhere. -/
def Phrasing.silent : Phrasing := ⟨fun _ => none, fun _ => none⟩

/-! ### Wording -/

/-- A message with what it is about in brackets, if that can be shown. -/
def about (message : String) : Option String → String
  | some text => message ++ " (" ++ text ++ ")"
  | none => message

/-- Texts as a list in a message. -/
def describeTexts (texts : List String) : String :=
  "[" ++ String.intercalate ", " (texts.map Text.quoted) ++ "]"

/-- A text or its absence in a message. -/
def describeOption : Option String → String
  | some s => Text.quoted s
  | none => "None"

/-- A projection in a message. -/
def Projection.describe (p : Projection) : String :=
  "Projection(variable=" ++ Text.quoted p.name ++ ", field=" ++ Text.quoted p.field ++ ")"

/-- An order in a message. -/
def describeOrder (o : OrderCondition) : String :=
  "OrderCondition(variable=" ++ describeOption o.key? ++ ", direction=" ++
    Text.quoted o.direction ++ ")"

/-- What is said of a rejected query, given the text from elsewhere. -/
def rejectionMessage (foreign : Option String) : Rejection → String
  | .malformed => foreign.getD ""
  | .selectsAll => "SELECT * is not supported"
  | .form name => about "unsupported query form" (some (Text.quoted name))
  | .offset start => about "offset not supported" (some (toString start))
  | .pattern name => about "unsupported graph pattern" (some (Text.quoted name))
  | .projection e => about "unsupported projected expression" (e.describe? <|> foreign)
  | .aggregate kind => about "unsupported aggregate" (some (Text.quoted kind.name))

section

variable (blank : BlankNode → Option String) (foreign : Option String)

/-- What is said of a construct that programs cannot express, given how blank nodes are shown and
the text from elsewhere. -/
def Unsupported.message : Unsupported → String
  | .conflictingDomains subject old new =>
    "conflicting domains for " ++ subject ++ ": " ++ old ++ ", " ++ new
  | .projectionOnVerified subject p =>
    about ("projection on verified subject " ++ subject) (some p.describe)
  | .verificationOnProjected subject c =>
    about ("verification on projected subject " ++ subject) (some c.toNode.describe)
  | .filter e => about "filters not supported" (e.describe? <|> foreign)
  | .union bs => about "only unions of two basic patterns are supported"
    ((Clause.union bs).describe? blank <|> foreign)
  | .branchWithoutFilter ts => about "union branch without a filter" (describeBasic? blank ts)
  | .groupByMany keys => about "group by with multiple fields" (some (describeTexts keys))
  | .having e => about "unsupported having clause" (e.describe? <|> foreign)
  | .havingOperator op => about "unsupported having operator" (some (Text.quoted op))
  | .havingVariable v => about "having over an unknown variable" (some (Text.quoted v))
  | .nothingToOutput => "no table to output"
  | .nothingToVerify subject => "nothing to verify on " ++ subject
  | .manyAggregates aliases => about "multiple aggregates" (some (describeTexts aliases))
  | .aggregateOverGroups keys => about "aggregate over grouped results" (some (describeTexts keys))
  | .orderByMany order => about "ordering by multiple variables"
    (some ("[" ++ String.intercalate ", " (order.map describeOrder) ++ "]"))
  | .orderUnprojected o => about "ordering by an unprojected expression" (some (describeOrder o))
  | .entityExpected type term =>
    about ("expected an entity for " ++ type.describe) (term.describe? blank)
  | .literalExpected type term =>
    about ("expected a literal for " ++ type.describe) (term.describe? blank)
  | .unknownProperty p => "unknown property " ++ p
  | .unknownDomain domain term =>
    about ("unknown domain " ++ domain.getD "None") (term.describe? blank)
  | .foreignSubject term => about "unsupported subject" (term.describe? blank)
  | .foreignPredicate p => about "unsupported predicate" (some p.describe)

end

/-- What is said of a failure, without its kind. -/
def Failure.detail (f : Failure) (phrasing : Phrasing := .silent) : String :=
  match f with
  | .rejected reason => rejectionMessage (phrasing.foreign f) reason
  | .unsupported reason => reason.message phrasing.blank (phrasing.foreign f)
  | .ambiguousSubject first second => "union over subjects " ++ first ++ " and " ++ second
  | .crossTable subjects => "output spans multiple tables: " ++ String.intercalate ", " subjects
  | .unresolvedLabel entity => "no label found for " ++ entity
  | .unknownMode name => "unknown similarity mode: " ++ name
  | .notText => (phrasing.foreign f).getD ""
  | .lookup _ => (phrasing.foreign f).getD ""

/-- The message of a failure that a conversion declares. -/
def Failure.message (f : Failure) (phrasing : Phrasing := .silent) : String :=
  f.kind.word ++ ": " ++ f.detail phrasing

end GraphTalk.Conversion
