import GraphTalk.Program.Basic

/-!
# Text of programs

Texts stand between double quotes; brackets are written only where an operand would otherwise run
into its surroundings.
-/

namespace GraphTalk

/-- A text between double quotes; backslashes and double quotes are escaped. -/
def quoteText (s : String) : String :=
  String.ofList ('"' :: s.toList.flatMap escape ++ ['"'])
where
  /-- A character inside of a text. -/
  escape (c : Char) : List Char := if c == '\\' || c == '"' then ['\\', c] else [c]

/-- A value as text. -/
def Value.render : Value → String
  | .entity code type display => quoteText code ++ "^^" ++ type ++ "(" ++ quoteText display ++ ")"
  | .string text => quoteText text
  | .number n => n.render

/-- Whether a condition needs brackets as an operand. -/
def Condition.isCompound : Condition → Bool
  | .all _ => true
  | .any _ => true
  | _ => false

/-- A text in brackets if it needs them. -/
def bracketed (needed : Bool) (text : String) : String :=
  if needed then "(" ++ text ++ ")" else text

mutual

/-- A condition as text. -/
def Condition.render : Condition → String
  | .atom field operator value =>
    if operator == "contains" then "contains(" ++ field ++ ", " ++ value.render ++ ")"
    else field ++ " " ++ operator ++ " " ++ value.render
  | .all operands => String.intercalate " && " (Condition.renderOperands operands)
  | .any operands => String.intercalate " || " (Condition.renderOperands operands)
  | .aggregate function field operator threshold =>
    function ++ "(" ++ field ++ ") " ++ operator ++ " " ++ threshold.render

/-- Conditions as operands. -/
def Condition.renderOperands : List Condition → List String
  | [] => []
  | c :: cs => bracketed c.isCompound c.render :: Condition.renderOperands cs

end

/-- Whether an expression has the shape of a call, which needs no brackets. -/
def TableExpression.isCall : TableExpression → Bool
  | .invocation _ _ => true
  | .aggregation _ _ _ => true
  | .sort _ _ _ => true
  | _ => false

/-- The field of an aggregation; an empty name counts as none. -/
def fieldOrNone : Option String → Option String
  | some f => if f == "" then none else some f
  | none => none

/-- A table expression as text. -/
def TableExpression.render : TableExpression → String
  | .invocation domain className => "@" ++ className ++ "." ++ domain ++ "()"
  | .filter e c => bracketed (!e.isCall) e.render ++ " filter " ++ c.render
  | .projection e fields =>
    "[" ++ String.intercalate ", " fields ++ "] of " ++ bracketed (!e.isCall) e.render
  | .aggregation e function field => match fieldOrNone field with
    | some f => function ++ "(" ++ f ++ " of " ++ bracketed (!e.isCall) e.render ++ ")"
    | none => function ++ "(" ++ e.render ++ ")"
  | .question e c => "[" ++ c.render ++ "] of " ++ bracketed (!e.isCall) e.render
  | .sort e field direction =>
    "sort(" ++ field ++ " " ++ direction ++ " of " ++ bracketed (!e.isCall) e.render ++ ")"
  | .index e limit => bracketed (!e.isCall) e.render ++ "[1:" ++ toString limit ++ "]"

/-- A program as text. -/
def Program.render (p : Program) : String := p.statement.render ++ ";"

end GraphTalk
