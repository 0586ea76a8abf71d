import GraphTalk.Rdf.Path
import GraphTalk.Text.Percent

/-!
# URLs of lookups

The URLs under which a knowledge base is asked, and the names of the entities and properties that
it is asked about.
-/

namespace GraphTalk.Knowledge

open Rdf (instanceOf)

/-- What the address of an entity starts with. -/
def entityAddress : String := "http://www.wikidata.org/entity/"

/-- The type of people. -/
def human : String := "Q5"

/-- The type of the groups of living beings. -/
def taxon : String := "Q16521"

/-! ### Codes -/

/-- Whether characters are a code: a letter for properties or entities, and digits. -/
def isCodeChars : List Char → Bool
  | letter :: d :: ds => (letter == 'P' || letter == 'Q') && (d :: ds).all Char.isDigit
  | _ => false

/-- Whether a text is a code. One line feed may stand at its end. -/
def isCode (s : String) : Bool :=
  isCodeChars s.toList ||
    (s.toList.getLast? == some '\n' && isCodeChars s.toList.dropLast)

/-! ### Queries -/

/-- The encoding of a query inside a URL. -/
def queryCharset : Text.Charset := {}

/-- The URL of a query. -/
def queryUrl (sparql : String) : String :=
  "https://query.wikidata.org/sparql?query=" ++
    Text.percentEncode queryCharset (Text.normalizeBlanks sparql) ++ "&format=json"

/-- The query for the values that a property has for an entity. -/
def valuesQuery (entity property : String) : String :=
  "SELECT ?v WHERE \x7b wd:" ++ entity ++ " wdt:" ++ property ++ " ?v. \x7d"

/-- The query for the types of an entity, those with the most instances first. -/
def typeCountQuery (entity : String) : String :=
  "SELECT ?v (COUNT(?s) as ?count) WHERE \x7b wd:" ++ entity ++ " wdt:" ++ instanceOf ++
    " ?v. ?s wdt:" ++ instanceOf ++ " ?v. \x7d GROUP BY ?v ORDER BY DESC(?count)"

/-! ### Entities -/

/-- What can be asked for about an entity. -/
inductive EntityPart where
  | labels
  | aliases
deriving DecidableEq, Repr

/-- The name of what is asked for. -/
def EntityPart.name : EntityPart → String
  | .labels => "labels"
  | .aliases => "aliases"

/-- The encoding of codes inside a URL. -/
def codesCharset : Text.Charset := { safe := ['|'], plusForSpace := true }

/-- The URL for what is known about entities. -/
def entitiesUrl (codes : List String) (part : EntityPart) : String :=
  "https://www.wikidata.org/w/api.php?action=wbgetentities&ids=" ++
    Text.percentEncode codesCharset (String.intercalate "|" codes) ++
    "&languages=en&props=" ++ part.name ++ "&format=json"

end GraphTalk.Knowledge
