import GraphTalk.Conversion.Generate
import GraphTalk.Dataset.Example
import GraphTalk.Document.Printer
import GraphTalk.Program.Render

/-!
# Converting datasets

Each example of a dataset becomes a row of the output, or is dropped with a record that says why.
-/

namespace GraphTalk.Dataset

open Conversion Knowledge

/-- A knowledge base that counts its failures. -/
structure Source (m : Type → Type) where
  lookups : Lookups m
  failureCount : m Nat

/-- The record of an example that was dropped. The failure is put into words where the record is
written. -/
structure Drop where
  id : String
  utterance : Document
  sparql : Document
  failure : Failure
  kind : Kind

/-- What becomes of an example. -/
inductive Outcome where
  | row (id utterance program : String)
  | dropped (drop : Drop)

/-! ### Texts -/

/-- A row of the output: the columns are separated by tabs. -/
def rowText (id utterance program : String) : String :=
  id ++ "\t" ++ utterance ++ "\t" ++ program ++ "\n"

/-- What is written down about a failure: its message if a conversion declares it, else whatever is
said of it elsewhere. -/
def errorText (f : Failure) (phrasing : Phrasing := .silent) : String :=
  if f.isDeclared then f.message phrasing else (phrasing.foreign f).getD ""

/-- The record of a dropped example as a document. -/
def Drop.toDocument (d : Drop) (phrasing : Phrasing := .silent) : Document :=
  .object [("id", .text d.id), ("utterance", d.utterance), ("sparql", d.sparql),
    ("error", .text (errorText d.failure phrasing)), ("kind", .text d.kind.word)]

/-- The record of a dropped example as a line. -/
def Drop.line (d : Drop) (phrasing : Phrasing := .silent) : String :=
  (d.toDocument phrasing).write ++ "\n"

/-- The rows among outcomes, as text. -/
def outputText (os : List Outcome) : String :=
  String.join (os.filterMap fun
    | .row id utterance program => some (rowText id utterance program)
    | .dropped _ => none)

/-- The dropped examples among outcomes. -/
def drops (os : List Outcome) : List Drop :=
  os.filterMap fun
    | .row _ _ _ => none
    | .dropped d => some d

/-- The records of the dropped examples among outcomes, as text. Each has a phrasing of its own,
since each query is read anew. -/
def droppedText (os : List Outcome) (phrasing : Nat → Phrasing := fun _ => .silent) : String :=
  String.join ((drops os).mapIdx fun i d => d.line (phrasing i))

/-! ### Conversion -/

/-- The kind of a failure, which is put down to the knowledge base if that was failing. -/
def classify (f : Failure) (unavailable : Bool) : Kind :=
  if unavailable then .knowledgeBaseUnavailable else f.kind

/-- The row of a converted example; the wording is written with single spaces. -/
def convertedRow (id : String) (p : Program) (utterance : String) : Outcome :=
  .row id (Text.joinWords (Text.words utterance)) p.render

section

variable {m : Type → Type} [Monad m]

/-- The program of an example. -/
def program (settings : Settings) (lookups : Lookups m) (e : Example) :
    ExceptT Failure m Program := do
  match e.sparql with
  | .text sparql =>
    let q ← readQuery sparql
    match e.keywords.mapM Document.asText with
    | .ok keywords => convertQuery settings lookups q keywords
    | .error _ => throw .notText
  | _ => throw .notText

/-- Converts an example. One that is converted needs a wording that is a text. -/
def convertExample (settings : Settings) (source : Source m) (e : Example) :
    m (Except Document.Mismatch Outcome) := do
  let before ← source.failureCount
  match ← (program settings source.lookups e).run with
  | .ok p => return e.utterance.asText.map (convertedRow e.id p)
  | .error f =>
    let after ← source.failureCount
    return .ok (.dropped
      { id := e.id, utterance := e.utterance, sparql := e.sparql, failure := f
        kind := classify f (before < after) })

/-- Converts examples one after the other. -/
def convertAll (settings : Settings) (source : Source m) :
    List Example → m (Except Document.Mismatch (List Outcome))
  | [] => return .ok []
  | e :: es => do
    match ← convertExample settings source e with
    | .error f => return .error f
    | .ok o => return (← convertAll settings source es).map (o :: ·)

end

/-! ### Summary -/

/-- The kinds in the order of their words. -/
def sortedKinds : List Kind :=
  [.ambiguousSubject, .crossTableUnsupported, .knowledgeBaseUnavailable, .parseError,
    .unresolvedEntityLabel, .unsupportedConstruct]

/-- How many examples were dropped for each kind of failure that occurred. -/
def countKinds (ds : List Drop) : List (Kind × Nat) :=
  sortedKinds.filterMap fun k =>
    let n := (ds.filter fun d => d.kind == k).length
    if n = 0 then none else some (k, n)

/-- The summary of a run. -/
def summary (os : List Outcome) : String :=
  let ds := drops os
  "Converted " ++ toString (os.length - ds.length) ++ "/" ++ toString os.length ++ " examples\n" ++
    String.join ((countKinds ds).map fun (k, n) => "  - " ++ k.word ++ ": " ++ toString n ++ "\n")

end GraphTalk.Dataset
