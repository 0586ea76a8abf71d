import GraphTalk.Document.Basic
import GraphTalk.Program.Basic

/-!
# Nodes

Values, conditions and table expressions in one type, in which a part of any sort may stand in any
place. `Node.toValue`, `Node.toCondition` and `Node.toExpression` sort a node; the first part of
the wrong sort, in the order of writing, is the reason for a refusal.
-/

namespace GraphTalk

/-- A part of a program, of whatever sort, or a document that is no part of any program. -/
inductive Node where
  | entity (code type display : String)
  | string (text : String)
  | number (number : Number)
  | atom (field operator : String) (value : Node)
  | all (operands : List Node)
  | any (operands : List Node)
  | bound (function field operator : String) (threshold : Number)
  | invocation (domain className : String)
  | filter (inner condition : Node)
  | projection (inner : Node) (fields : List String)
  | aggregation (inner : Node) (function : String) (field : Option String)
  | question (inner condition : Node)
  | sort (inner : Node) (field direction : String)
  | index (inner : Node) (limit : Int)
  | document (document : Document)

namespace Node

/-! ### Nodes in messages -/

/-- Texts as a tuple: one alone keeps a comma. -/
def describeTuple : List String → String
  | [t] => "(" ++ t ++ ",)"
  | ts => "(" ++ String.intercalate ", " ts ++ ")"

/-- A name with its fields. -/
def describeRecord (name : String) (fields : List (String × String)) : String :=
  name ++ "(" ++ String.intercalate ", " (fields.map fun f => f.1 ++ "=" ++ f.2) ++ ")"

mutual

/-- A node as it is shown inside a message. -/
def describe : Node → String
  | .entity code type display => describeRecord "EntityValue"
    [("code", Text.quoted code), ("type", Text.quoted type), ("display", Text.quoted display)]
  | .string text => describeRecord "StringValue" [("text", Text.quoted text)]
  | .number n => describeRecord "NumberValue" [("number", n.describe)]
  | .atom field operator value => describeRecord "AtomCondition"
    [("field", Text.quoted field), ("operator", Text.quoted operator), ("value", value.describe)]
  | .all operands => describeRecord "AndCondition"
    [("operands", describeTuple (describeAll operands))]
  | .any operands => describeRecord "OrCondition"
    [("operands", describeTuple (describeAll operands))]
  | .bound function field operator threshold => describeRecord "AggregateCondition"
    [("function", Text.quoted function), ("field", Text.quoted field),
     ("operator", Text.quoted operator), ("threshold", threshold.describe)]
  | .invocation domain className => describeRecord "InvocationQuery"
    [("domain", Text.quoted domain), ("class_name", Text.quoted className)]
  | .filter inner condition => describeRecord "FilterQuery"
    [("expression", inner.describe), ("condition", condition.describe)]
  | .projection inner fields => describeRecord "ProjectionQuery"
    [("expression", inner.describe), ("fields", describeTuple (fields.map Text.quoted))]
  | .aggregation inner function field => describeRecord "AggregationQuery"
    [("expression", inner.describe), ("function", Text.quoted function),
     ("field", match field with
       | some f => Text.quoted f
       | none => "None")]
  | .question inner condition => describeRecord "BooleanQuestionQuery"
    [("expression", inner.describe), ("condition", condition.describe)]
  | .sort inner field direction => describeRecord "SortQuery"
    [("expression", inner.describe), ("field", Text.quoted field),
     ("direction", Text.quoted direction)]
  | .index inner limit => describeRecord "IndexQuery"
    [("expression", inner.describe), ("limit", toString limit)]
  | .document d => d.describe

/-- Nodes as they are shown inside a message. -/
def describeAll : List Node → List String
  | [] => []
  | n :: ns => n.describe :: describeAll ns

end

/-! ### Sorting -/

/-- What was expected where a node of another sort stands. -/
inductive SortError where
  | notValue (node : Node)
  | notCondition (node : Node)
  | notExpression (node : Node)

/-- The message for a node of the wrong sort. -/
def SortError.message : SortError → String
  | .notValue n => "not a ThingTalk value: " ++ n.describe
  | .notCondition n => "not a boolean condition: " ++ n.describe
  | .notExpression n => "not a table expression: " ++ n.describe

/-- A node as a value. -/
def toValue : Node → Except SortError Value
  | .entity code type display => .ok (.entity code type display)
  | .string text => .ok (.string text)
  | .number n => .ok (.number n)
  | n => .error (.notValue n)

mutual

/-- A node as a condition. -/
def toCondition : Node → Except SortError Condition
  | .atom field operator value => do return .atom field operator (← value.toValue)
  | .all operands => do return .all (← toConditions operands)
  | .any operands => do return .any (← toConditions operands)
  | .bound function field operator threshold =>
    .ok (.aggregate function field operator threshold)
  | n => .error (.notCondition n)

/-- Nodes as conditions. -/
def toConditions : List Node → Except SortError (List Condition)
  | [] => .ok []
  | n :: ns => do return (← n.toCondition) :: (← toConditions ns)

end

/-- A node as a table expression. Parts are looked at in the order in which they are written: the
condition of a question comes before its table. -/
def toExpression : Node → Except SortError TableExpression
  | .invocation domain className => .ok (.invocation domain className)
  | .filter inner condition => do
    return .filter (← inner.toExpression) (← condition.toCondition)
  | .projection inner fields => do return .projection (← inner.toExpression) fields
  | .aggregation inner function field => do
    return .aggregation (← inner.toExpression) function field
  | .question inner condition => do
    let condition ← condition.toCondition
    return .question (← inner.toExpression) condition
  | .sort inner field direction => do return .sort (← inner.toExpression) field direction
  | .index inner limit => do return .index (← inner.toExpression) limit
  | n => .error (.notExpression n)

end Node

/-! ### Conditions as nodes -/

/-- A value as a node. -/
def Value.toNode : Value → Node
  | .entity code type display => .entity code type display
  | .string text => .string text
  | .number n => .number n

mutual

/-- A condition as a node. -/
def Condition.toNode : Condition → Node
  | .atom field operator value => .atom field operator value.toNode
  | .all operands => .all (Condition.toNodes operands)
  | .any operands => .any (Condition.toNodes operands)
  | .aggregate function field operator threshold => .bound function field operator threshold

/-- Conditions as nodes. -/
def Condition.toNodes : List Condition → List Node
  | [] => []
  | c :: cs => c.toNode :: Condition.toNodes cs

end

end GraphTalk
