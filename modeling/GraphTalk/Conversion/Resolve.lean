import GraphTalk.Conversion.Table
import GraphTalk.Schema.Basic
import GraphTalk.Utterance.Similarity

/-!
# Values and conditions of a program

How the terms of a query become values: entities are shown by the words that the utterance
mentions them by, literals are numbers or texts.
-/

namespace GraphTalk.Conversion

open Rdf Sparql Knowledge

/-- What a conversion works with, whatever the query. -/
structure Settings where
  schema : Schema
  /-- The name of the measure of similarity, which is looked up when it is needed. -/
  mode : String := "f1"
  /-- How the closest of several texts is found. -/
  closest : Utterance.Mode → String → List String → Option String := Utterance.closest

/-- What the conversion of one query works with. -/
structure Scope (m : Type → Type) where
  settings : Settings
  lookups : Lookups m
  /-- The spans of the utterance. -/
  spans : List String
  /-- Whether the query asks for a truth value. -/
  isQuestion : Bool := false

section

variable {m : Type → Type} [Monad m]

/-- Asks the knowledge base. -/
def ask {α : Type} (question : m (Except Fault α)) : ExceptT Failure m α :=
  ExceptT.mk (do
    match ← question with
    | .ok a => return .ok a
    | .error f => return .error (.lookup f))

/-- The span that is closest to a label. Nothing is looked at when there is no span. -/
def closestSpan (s : Settings) (spans : List String) (label : Label) :
    Except Failure (Option String) :=
  if spans.isEmpty then .ok none
  else match Utterance.Mode.ofName? s.mode, label with
    | none, _ => .error (.unknownMode s.mode)
    | some _, .foreign => .error .notText
    | some mode, .text t => .ok (s.closest mode t spans)

/-- The span that is closest to the first label that has one. -/
def firstClosestSpan (s : Settings) (spans : List String) :
    List Label → Except Failure (Option String)
  | [] => .ok none
  | l :: ls => match closestSpan s spans l with
    | .error f => .error f
    | .ok (some span) => .ok (some span)
    | .ok none => firstClosestSpan s spans ls

/-- A label as a text, which it has to be in order to be written in a program. -/
def labelText : Label → Except Failure String
  | .text t => .ok t
  | .foreign => .error .notText

/-- The words that an entity is shown by: the span closest to its label, else the span closest to
one of its other labels, else its label. The words are a text, so a label that is no text fails here
even if there is no span to compare it with. Such a label could also be carried along until the
program is written, which fails for it: the conversion fails either way, but then the later triples
are folded before, and what fails first among them is what the conversion fails with. -/
def display (sc : Scope m) (entity : String) : ExceptT Failure m String := do
  match ← ask (sc.lookups.label entity) with
  | none => throw (.unresolvedLabel entity)
  | some label =>
    match ← ExceptT.mk (pure (closestSpan sc.settings sc.spans label)) with
    | some span => return span
    | none =>
      let others ← ask (sc.lookups.altLabels entity)
      match ← ExceptT.mk (pure (firstClosestSpan sc.settings sc.spans others)) with
      | some span => return span
      | none => ExceptT.mk (pure (labelText label))

/-- A literal as a value of a field: a number if the field has numbers and the literal is one,
else a text. -/
def literalValue (type : FieldType) (l : Literal) : Value :=
  match type.element, l.number? with
  | .number, some n => .number n
  | _, _ => .string l.text

/-- A term as a value of a field. -/
def value (sc : Scope m) (type : FieldType) (term : Term) : ExceptT Failure m Value :=
  match type.entityType? with
  | some entityType => match term.entity? with
    | none => throw (.unsupported (.entityExpected type term))
    | some entity => do return .entity entity entityType (← display sc entity)
  | none => match term with
    | .literal l => return literalValue type l
    | _ => throw (.unsupported (.literalExpected type term))

/-- The operator that compares a field with a value. -/
def defaultOperator (type : FieldType) : String := if type.isArray then "contains" else "=="

/-- The condition that a property has a value. -/
def atom (sc : Scope m) (property : String) (term : Term) (operator : Option String := none) :
    ExceptT Failure m Condition :=
  match sc.settings.schema.field? property with
  | none => throw (.unsupported (.unknownProperty property))
  | some f => do
    return .atom f.name (operator.getD (defaultOperator f.type)) (← value sc f.type term)

/-- The condition that a row is a given entity. -/
def identity (sc : Scope m) (entity : String) : ExceptT Failure m Condition := do
  return .atom "id" "==" (.entity entity genericEntityType (← display sc entity))

end

end GraphTalk.Conversion
