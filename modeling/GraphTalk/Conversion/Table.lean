import GraphTalk.Conversion.Failure

/-!
# Tables

All that is known about one subject of a query: the table it is in, the fields that variables
stand for, the conditions on it, and, for questions, the conditions that are asked for.

A subject is named by its code, or by a question mark and its name if it is a variable.
-/

namespace GraphTalk.Conversion

open Sparql

/-- The table of a subject of which no type is known. -/
def defaultTable : String := "entity"

/-- What is known about one subject. -/
structure Table where
  subject : String
  /-- The name of the table that the subject is in. -/
  name : String := defaultTable
  projections : List Projection := []
  filters : List Condition := []
  verifications : List Condition := []
  /-- Whether the query itself says which table it is. -/
  typed : Bool := false
deriving Repr

namespace Table

/-- The variable that the subject is. -/
def variableName? (t : Table) : Option String := Text.dropStart? "?" t.subject

/-- Sets the table; it may not be set to another one later. -/
def setName (t : Table) (name : String) : Except Unsupported Table :=
  if t.typed && t.name != name then .error (.conflictingDomains t.subject t.name name)
  else .ok { t with name, typed := true }

/-- Adds a condition unless an equal one is there. -/
def addFilter (t : Table) (c : Condition) : Table :=
  if t.filters.any fun d => d.same c then t else { t with filters := t.filters ++ [c] }

/-- Adds a field that a variable stands for, unless something is asked for. -/
def addProjection (t : Table) (p : Projection) : Except Unsupported Table :=
  if t.verifications.isEmpty then .ok { t with projections := t.projections ++ [p] }
  else .error (.projectionOnVerified t.subject p)

/-- Adds a condition that is asked for, unless a variable stands for a field. -/
def addVerification (t : Table) (c : Condition) : Except Unsupported Table :=
  if t.projections.isEmpty then .ok { t with verifications := t.verifications ++ [c] }
  else .error (.verificationOnProjected t.subject c)

/-- The field that a variable stands for; of several the first. -/
def fieldFor? (t : Table) (name : String) : Option String :=
  (t.projections.find? fun p => p.name == name).map Projection.field

end Table

/-! ### Several tables -/

/-- The tables of a query, in the order in which their subjects are met. -/
abbrev Tables := List Table

namespace Tables

/-- The table of a subject. -/
def find? (ts : Tables) (subject : String) : Option Table :=
  List.find? (fun t => t.subject == subject) ts

/-- Replaces the table of the same subject. -/
def put (ts : Tables) (table : Table) : Tables :=
  ts.map fun t => if t.subject == table.subject then table else t

/-- The first table in which a variable stands for a field, and that field. -/
def ownerOf? : Tables → String → Option (Table × String)
  | [], _ => none
  | t :: ts, name => match t.fieldFor? name with
    | some field => some (t, field)
    | none => ownerOf? ts name

end Tables

end GraphTalk.Conversion
