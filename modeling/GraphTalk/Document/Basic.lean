import GraphTalk.Number.Basic
import GraphTalk.Text.Quoted

/-!
# Documents

A document is a value of the JSON data model. The members of an object keep their order; a name
that is given twice keeps its first place and its last value.
-/

namespace GraphTalk

/-- A value of the JSON data model. -/
inductive Document where
  | null
  | bool (value : Bool)
  | number (value : Number)
  | text (value : String)
  | array (items : List Document)
  | object (members : List (String × Document))
deriving Inhabited

/-- Sets the value of a name: in place if the name is there, else at the end. -/
def setMember {α : Type} (members : List (String × α)) (name : String) (value : α) :
    List (String × α) :=
  match members with
  | [] => [(name, value)]
  | (n, v) :: rest =>
    if n == name then (n, value) :: rest else (n, v) :: setMember rest name value

namespace Document

/-- An integer as a document. -/
def int (n : Int) : Document := .number (.int n)

/-- An object from members in which a name may come twice. -/
def ofMembers (members : List (String × Document)) : Document :=
  .object (members.foldl (fun ms m => setMember ms m.1 m.2) [])

/-- Whether a document counts as something: neither null, false, zero, nor empty. -/
def isTruthy : Document → Bool
  | .null => false
  | .bool b => b
  | .number n => !n.same (.int 0)
  | .text s => s != ""
  | .array items => !items.isEmpty
  | .object members => !members.isEmpty

/-! ### Equality -/

mutual

/-- Equality of documents: numbers by value, members in any order, and a truth value counts as
one or zero. -/
def same : Document → Document → Bool
  | .null, .null => true
  | .bool a, .bool b => a == b
  | .bool a, .number n => n.same (.int (if a then 1 else 0))
  | .number n, .bool a => n.same (.int (if a then 1 else 0))
  | .number m, .number n => m.same n
  | .text s, .text t => s == t
  | .array xs, .array ys => sameItems xs ys
  | .object ms, .object ns => ms.length == ns.length && sameMembers ms ns
  | _, _ => false

/-- Equality item by item. -/
def sameItems : List Document → List Document → Bool
  | [], [] => true
  | x :: xs, y :: ys => x.same y && sameItems xs ys
  | _, _ => false

/-- Whether each member has an equal one of the same name. -/
def sameMembers : List (String × Document) → List (String × Document) → Bool
  | [], _ => true
  | (name, x) :: rest, ns =>
    (match ns.lookup name with
      | some y => x.same y
      | none => false) && sameMembers rest ns

end

/-! ### Text of a document in messages -/

mutual

/-- A document as it is shown inside a message. -/
def describe : Document → String
  | .null => "None"
  | .bool b => if b then "True" else "False"
  | .number n => n.describe
  | .text s => Text.quoted s
  | .array items => "[" ++ String.intercalate ", " (describeItems items) ++ "]"
  | .object members => "\x7b" ++ String.intercalate ", " (describeMembers members) ++ "\x7d"

/-- The items of an array as they are shown. -/
def describeItems : List Document → List String
  | [] => []
  | x :: xs => x.describe :: describeItems xs

/-- The members of an object as they are shown. -/
def describeMembers : List (String × Document) → List String
  | [] => []
  | (name, x) :: rest => (Text.quoted name ++ ": " ++ x.describe) :: describeMembers rest

end

/-- A document as plain text: a text is itself, all else is as it is shown inside a message. -/
def plain : Document → String
  | .text s => s
  | d => d.describe

end Document

end GraphTalk
