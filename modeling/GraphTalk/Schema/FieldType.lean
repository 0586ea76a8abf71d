import GraphTalk.Text.Blank

/-!
# Types of fields

A field holds scalars or entities, or arrays of them. Arrays of arrays are arrays.
-/

namespace GraphTalk

/-- What the values of a field are. -/
inductive ElementType where
  | string
  | number
  | boolean
  | date
  /-- Entities of a type. -/
  | entity (type : String)
deriving DecidableEq, Repr

/-- The type of a field. -/
structure FieldType where
  element : ElementType
  isArray : Bool := false
deriving DecidableEq, Repr

/-- The scalar types by their names. -/
def ElementType.scalar? (name : List Char) : Option ElementType :=
  match String.ofList name with
  | "String" => some .string
  | "Number" => some .number
  | "Boolean" => some .boolean
  | "Date" => some .date
  | _ => none

/-- The word for the kind of a type. -/
def ElementType.kind : ElementType → String
  | .string => "String"
  | .number => "Number"
  | .boolean => "Boolean"
  | .date => "Date"
  | .entity _ => "Entity"

namespace FieldType

/-- Whether the values are entities. -/
def isEntity (t : FieldType) : Bool :=
  match t.element with
  | .entity _ => true
  | _ => false

/-- The type of the entities that a field holds. -/
def entityType? (t : FieldType) : Option String :=
  match t.element with
  | .entity type => some type
  | _ => none

/-- A type as text. -/
def describe (t : FieldType) : String :=
  let inner := match t.element with
    | .entity type => "Entity(" ++ type ++ ")"
    | e => e.kind
  if t.isArray then "Array(" ++ inner ++ ")" else inner

/-! ### Reading -/

/-- The characters of the names of entity types. -/
def isTypeChar (c : Char) : Bool := c.isAlphanum || c == '_' || c == '.' || c == ':'

/-- What stands between the brackets behind a word, when blanks may stand before the brackets and
nothing stands behind them. -/
def bracketed? (word : String) (cs : List Char) : Option (List Char) :=
  if word.toList.isPrefixOf cs then
    match (cs.drop word.toList.length).dropWhile Text.isBlank with
    | '(' :: rest => if rest.getLast? = some ')' then some rest.dropLast else none
    | _ => none
  else none

/-- The element of an array type: a text on one line that is not empty. -/
def arrayElement? (cs : List Char) : Option (List Char) :=
  match bracketed? "Array" cs with
  | some inner => if inner.isEmpty || inner.contains '\n' then none else some inner
  | none => none

/-- The name of the type of entities. -/
def entityName? (cs : List Char) : Option (List Char) :=
  match bracketed? "Entity" cs with
  | some inner =>
    let name := Text.Chars.strip inner
    if name.isEmpty || !name.all isTypeChar then none else some name
  | none => none

/-- Reads a type from a text without blanks around it, through at most a number of arrays; a text
that is no type is given back. -/
def readFrom : Nat → List Char → Except (List Char) FieldType
  | 0, cs => .error cs
  | fuel + 1, text =>
    let cs := Text.Chars.strip text
    match arrayElement? cs with
    | some inner => match readFrom fuel inner with
      | .ok t => .ok { t with isArray := true }
      | .error e => .error e
    | none => match entityName? cs with
      | some name => .ok { element := .entity (String.ofList name) }
      | none => match ElementType.scalar? cs with
        | some t => .ok { element := t }
        | none => .error cs

/-- The type that a text stands for, or the part of it that is no type. -/
def parse (text : String) : Except String FieldType :=
  match readFrom (text.length + 1) text.toList with
  | .ok t => .ok t
  | .error cs => .error (String.ofList cs)

end FieldType

end GraphTalk
