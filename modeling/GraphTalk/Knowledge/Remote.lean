import GraphTalk.Knowledge.Session
import GraphTalk.Knowledge.Url

/-!
# Lookups over a network

The values of a property, the type and the names of an entity, as they are read off the documents
that a session retrieves.
-/

namespace GraphTalk.Knowledge

open Rdf (instanceOf)

/-- A knowledge base on a network. -/
structure Remote (σ : Type) where
  network : Network σ
  /-- Types of entities that are known beforehand. -/
  types : List (String × String) := []

/-! ### Reading replies -/

/-- The rows of a reply to a query, if it has the shape of one. -/
def bindings? (d : Document) : Option Document :=
  match d.part "results" with
  | .error _ => none
  | .ok results => match results.part "bindings" with
    | .error _ => none
    | .ok rows => rows.something?

/-- The code in the address of an entity; any other text is left as it is. -/
def codeOfAddress (address : String) : String :=
  (Text.dropStart? entityAddress address).getD address

/-- What a row of a reply holds for its variable. -/
def rowValue (row : Document) : Except Document.Mismatch Document := do
  (← row.part "v").part "value"

/-- The values in the rows of a reply, entities as codes. -/
def rowValues (rows : Document) : Except Document.Mismatch (List String) := do
  (← rows.parts).mapM fun row => do
    return codeOfAddress (← (← rowValue row).asText)

/-- The value in the first row of a reply, without what addresses start with. -/
def firstRowCode (rows : Document) : Except Document.Mismatch Document := do
  (← rowValue (← rows.firstPart)).dropParts entityAddress.length

/-- The first entity of a reply about entities. A reply without entities has none; entities that
are no object do not fit at all. -/
def firstEntity? (d : Document) : Except Document.Mismatch (Option Document) :=
  match d.part "entities" with
  | .error _ => .ok none
  | .ok entities => entities.members.map fun ms => ms.head?.map Prod.snd

/-- The name in what is known about an entity. -/
def entityLabel? (entity : Document) : Option Document :=
  match (do (← (← entity.part "labels").part "en").part "value") with
  | .ok label => label.something?
  | .error _ => none

/-- The other names in what is known about an entity. -/
def entityAliases (entity : Document) : List Document :=
  match (do (← (← (← entity.part "aliases").part "en").parts).mapM (Document.part · "value")) with
  | .ok names => names
  | .error _ => []

/-! ### Lookups -/

namespace Remote

variable {σ : Type}

/-- The rows of the reply to a query. -/
def query (r : Remote σ) (sparql : String) : Step σ (Option Document) := do
  return (← request r.network (queryUrl sparql)).bind bindings?

/-- The values that a property has for an entity. -/
def propertyValues (r : Remote σ) (entity property : String) : Step σ (List String) := do
  match ← r.query (valuesQuery entity property) with
  | none => return []
  | some rows => ExceptT.mk (pure (reaching (rowValues rows)))

/-- Of several types the one with the most instances, or the first if that is not known. -/
def mostFrequentType (r : Remote σ) (entity first : String) : Step σ Document := do
  match ← r.query (typeCountQuery entity) with
  | none => return .text first
  | some rows =>
    if rows.isTruthy then ExceptT.mk (pure (reaching (firstRowCode rows)))
    else return .text first

/-- The type among those of an entity that needs no counting, if there is one: people and living
beings have too many instances to count, and a single type is the only choice. -/
def evidentType? (types : List String) : Option String :=
  if types.contains human then some human
  else match types with
    | [type] => some type
    | _ => if types.contains taxon then some taxon else none

/-- The most informative type of an entity. -/
def domain (r : Remote σ) (entity : String) : Step σ (Option Document) :=
  match r.types.lookup entity with
  | some type => if type == "" then declared else return some (.text type)
  | none => declared
where
  /-- The most informative of the types that the knowledge base declares. -/
  declared : Step σ (Option Document) := do
    match ← r.propertyValues entity instanceOf with
    | [] => return none
    | first :: others => match evidentType? (first :: others) with
      | some type => return some (.text type)
      | none => return some (← r.mostFrequentType entity first)

/-- What is known about an entity under its code. A text that is no code is not looked up. -/
def entity? (r : Remote σ) (code : String) (part : EntityPart) : Step σ (Option Document) := do
  if isCode code then
    match ← request r.network (entitiesUrl [code] part) with
    | some d => ExceptT.mk (pure (reaching (firstEntity? d)))
    | none => return none
  else return none

/-- The name of an entity. -/
def label (r : Remote σ) (code : String) : Step σ (Option Document) := do
  return (← r.entity? code .labels).bind entityLabel?

/-- The other names of an entity. -/
def altLabels (r : Remote σ) (code : String) : Step σ (List Document) := do
  match ← r.entity? code .aliases with
  | some entity => return entityAliases entity
  | none => return []

/-! ### As a conversion asks -/

/-- A type as a name of a table. A list is no such name, and an empty list is no type. -/
def typeName? : Document → Except Document.Mismatch (Option String)
  | .text s => .ok (some s)
  | .array (_ :: _) => .error .noParts
  | _ => .ok none

/-- The lookups of a conversion. -/
def lookups (r : Remote σ) : Lookups (StateM (Session σ)) where
  label code := do return (← (r.label code).run).map fun d => d.map Label.ofDocument
  altLabels code := do return (← (r.altLabels code).run).map fun ds => ds.map Label.ofDocument
  domain code := do
    match ← (r.domain code).run with
    | .ok (some d) => return reaching (typeName? d)
    | .ok none => return .ok none
    | .error f => return .error f

end Remote

end GraphTalk.Knowledge
