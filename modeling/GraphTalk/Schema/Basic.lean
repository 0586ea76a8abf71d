import GraphTalk.Schema.FieldType
import GraphTalk.Text.Quoted

/-!
# Schemas

A schema names the tables for domains and the fields for properties. It is given as a manifest:
one declaration on a line, comments behind `#`, and an optional dash before a declaration. The last
declaration of a code wins, at the place of the first.
-/

namespace GraphTalk

/-- A field: its name, the property it stands for, and its type. -/
structure SchemaField where
  name : String
  property : String
  type : FieldType
deriving DecidableEq, Repr

/-- A schema: the names of tables by domain and the fields by property, in the order of their
first declaration. -/
structure Schema where
  tables : List (String × String) := []
  fields : List (String × SchemaField) := []
deriving DecidableEq, Repr, Inhabited

/-- Sets the entry of a key: in place if there is one, else at the end. -/
def setEntry {α : Type} (entries : List (String × α)) (key : String) (value : α) :
    List (String × α) :=
  match entries with
  | [] => [(key, value)]
  | (k, v) :: rest =>
    if k == key then (k, value) :: rest else (k, v) :: setEntry rest key value

namespace Schema

/-- The name of the table of a domain. -/
def tableName? (s : Schema) (domain : String) : Option String := s.tables.lookup domain

/-- The name of the table of a domain that may be missing. An empty text is no domain. -/
def domainTable? (s : Schema) (domain : Option String) : Option String :=
  (domain.filter (· != "")).bind s.tableName?

/-- The field of a property. -/
def field? (s : Schema) (property : String) : Option SchemaField := s.fields.lookup property

/-- The name of the field of a property. -/
def fieldName? (s : Schema) (property : String) : Option String :=
  (s.field? property).map SchemaField.name

/-- The type of the field of a property. -/
def fieldType? (s : Schema) (property : String) : Option FieldType :=
  (s.field? property).map SchemaField.type

/-- Whether a domain has a table. -/
def hasTable (s : Schema) (domain : String) : Bool := (s.tableName? domain).isSome

/-- Whether a property has a field. -/
def hasProperty (s : Schema) (property : String) : Bool := (s.field? property).isSome

/-- A schema as text. -/
def describe (s : Schema) : String :=
  let tables := s.tables.map fun (domain, name) => "- " ++ name ++ " (" ++ domain ++ ")"
  let fields := s.fields.map fun (_, f) =>
    "- " ++ f.name ++ " (" ++ f.property ++ "): " ++ f.type.describe
  "TABLES:\n" ++ String.intercalate "\n" tables ++ "\nFIELDS:\n" ++ String.intercalate "\n" fields

end Schema

/-! ### Manifests -/

/-- Why a manifest is refused. -/
inductive ManifestError where
  /-- The line is no declaration. -/
  | line (raw : String)
  /-- The text is no type of a field. -/
  | type (text : String)
deriving DecidableEq, Repr

/-- The message for a refused manifest. -/
def ManifestError.message : ManifestError → String
  | .line raw => "unparsed manifest line: " ++ Text.quoted raw
  | .type text => "unknown field type: " ++ text

/-- What a line of a manifest declares. -/
inductive Declaration where
  | table (name domain : String)
  | field (name property type : String)
deriving DecidableEq, Repr

namespace Manifest

/-- The characters of the names of tables and fields. -/
def isNameChar (c : Char) : Bool := c.isAlphanum || c == '_'

/-- The rest behind a word and the blanks after it, of which there is one at least. -/
def afterWord? (word : String) (cs : List Char) : Option (List Char) :=
  if word.toList.isPrefixOf cs then
    match cs.drop word.toList.length with
    | c :: rest => if Text.isBlank c then some (rest.dropWhile Text.isBlank) else none
    | [] => none
  else none

/-- A run of characters that is not empty, and what follows it. -/
def run? (p : Char → Bool) (cs : List Char) : Option (List Char × List Char) :=
  match cs.takeWhile p with
  | [] => none
  | taken => some (taken, cs.dropWhile p)

/-- The rest behind a mark with blanks around it. -/
def afterMark? (mark : Char) (cs : List Char) : Option (List Char) :=
  match cs.dropWhile Text.isBlank with
  | c :: rest => if c == mark then some (rest.dropWhile Text.isBlank) else none
  | [] => none

/-- A code: a letter and digits. -/
def code? (letter : Char) (cs : List Char) : Option (List Char × List Char) :=
  match cs with
  | c :: rest =>
    if c == letter then (run? Char.isDigit rest).map fun (ds, rest) => (c :: ds, rest) else none
  | [] => none

/-- A name, an equals sign and a code. -/
def binding? (letter : Char) (cs : List Char) :
    Option (List Char × List Char × List Char) := do
  let (name, rest) ← run? isNameChar cs
  let rest ← afterMark? '=' rest
  let (code, rest) ← code? letter rest
  return (name, code, rest)

/-- A declaration of a table. -/
def table? (cs : List Char) : Option Declaration := do
  let (name, code, rest) ← binding? 'Q' (← afterWord? "table" cs)
  if rest.isEmpty then return .table (String.ofList name) (String.ofList code) else none

/-- A declaration of a field, whose type is whatever stands behind the colon. -/
def field? (cs : List Char) : Option Declaration := do
  let (name, code, rest) ← binding? 'P' (← afterWord? "field" cs)
  let type ← afterMark? ':' rest
  if type.isEmpty then none
  else return .field (String.ofList name) (String.ofList code) (String.ofList type)

/-- A declaration without the dash that may stand before it. -/
def withoutDash : List Char → List Char
  | '-' :: ' ' :: rest => Text.Chars.strip rest
  | cs => cs

/-- What a line declares; nothing if it is blank or a comment. -/
def readLine (raw : List Char) : Except ManifestError (Option Declaration) :=
  match Text.Chars.strip raw with
  | [] => .ok none
  | '#' :: _ => .ok none
  | cs =>
    let cs := withoutDash cs
    match table? cs with
    | some d => .ok (some d)
    | none => match field? cs with
      | some d => .ok (some d)
      | none => .error (.line (String.ofList raw))

/-- Adds a declaration to a schema. -/
def declare (s : Schema) : Declaration → Except ManifestError Schema
  | .table name domain => .ok { s with tables := setEntry s.tables domain name }
  | .field name property type => match FieldType.parse type with
    | .ok t => .ok { s with fields := setEntry s.fields property ⟨name, property, t⟩ }
    | .error e => .error (.type e)

/-- Adds what a line declares to a schema. -/
def addLine (s : Schema) (raw : List Char) : Except ManifestError Schema :=
  match readLine raw with
  | .error e => .error e
  | .ok none => .ok s
  | .ok (some d) => declare s d

/-- Adds what lines declare to a schema, up to the first line that is refused. -/
def addLines (s : Schema) : List (List Char) → Except ManifestError Schema
  | [] => .ok s
  | l :: ls => match addLine s l with
    | .error e => .error e
    | .ok s => addLines s ls

end Manifest

/-- The schema that a manifest declares. -/
def Schema.parse (manifest : String) : Except ManifestError Schema :=
  Manifest.addLines {} (Text.Chars.lines manifest.toList)

end GraphTalk
