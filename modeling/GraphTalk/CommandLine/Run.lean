import GraphTalk.CommandLine.Arguments
import GraphTalk.Dataset.Batch
import GraphTalk.Knowledge.Remote
import GraphTalk.Knowledge.TypeIndex

/-!
# Running the command

What a run of the command reads, writes and says. Files are given by a function, and what is
written is part of the result.
-/

namespace GraphTalk.CommandLine

open Conversion Dataset Knowledge

/-- The texts of files by path; a file that cannot be read has none. -/
abbrev Files := String → Option String

/-- Why a run does not start. -/
inductive InputError where
  | unreadable (path : String)
  | malformed (path : String)
  | manifest (reason : ManifestError)

/-- What is said about a run that does not start. -/
def InputError.message : InputError → String
  | .unreadable path => "cannot read " ++ path
  | .malformed path => path ++ " is not JSON"
  | .manifest reason => reason.message

/-- Why there is nothing to run with. -/
inductive Obstacle where
  /-- Something about the input is said to be wrong. -/
  | input (reason : InputError)
  /-- A document has a shape that nobody provides for. -/
  | mismatch (reason : Document.Mismatch)

/-- All that a run works with. -/
structure Job where
  schema : Schema
  examples : List Example
  types : TypeIndex

/-! ### Preparation -/

/-- The text of a file. -/
def readText (files : Files) (path : String) : Except Obstacle String :=
  match files path with
  | some text => .ok text
  | none => .error (.input (.unreadable path))

/-- Reads the manifest. -/
def readSchema (files : Files) (path : String) : Except Obstacle Schema := do
  match Schema.parse (Text.strip (← readText files path)) with
  | .ok schema => return schema
  | .error reason => throw (.input (.manifest reason))

/-- Reads the examples of a dataset. -/
def readExamples (files : Files) (path : String) : Except Obstacle (List Example) := do
  match Document.parse? (← readText files path) with
  | none => throw (.input (.malformed path))
  | some dataset => match examples dataset with
    | .ok es => return es
    | .error reason => throw (.mismatch reason)

/-- Reads a type index, if there is to be one. -/
def readTypes (files : Files) : Option String → Except Obstacle TypeIndex
  | none => return []
  | some path => do
    match TypeIndex.parse (← readText files path) with
    | .ok types => return types
    | .error .malformed => throw (.input (.malformed path))
    | .error (.mismatch reason) => throw (.mismatch reason)

/-- Reads the manifest, then the dataset, then the type index. -/
def prepare (files : Files) (c : Command) : Except Obstacle Job := do
  let schema ← readSchema files c.manifest
  let examples ← readExamples files c.input
  let types ← readTypes files c.typeIndex
  return { schema, examples, types }

/-! ### Running -/

/-- What a run comes to. -/
structure Report where
  /-- Zero if all examples were converted, one if the run did not start, else two. -/
  code : Nat
  /-- What is printed. -/
  summary : String := ""
  /-- What was wrong with the input. -/
  error : Option InputError := none
  /-- The files that were written, with their texts. -/
  written : List (String × String) := []

/-- The report on the outcomes of a run, given the phrasings of the records of what was dropped. -/
def Report.ofOutcomes (c : Command) (os : List Outcome)
    (phrasing : Nat → Phrasing := fun _ => .silent) : Report :=
  { code := if (drops os).isEmpty then 0 else 2
    summary := Dataset.summary os
    written := (c.output, outputText os) ::
      (c.dropped.map fun path => (path, droppedText os phrasing)).toList }

/-- A knowledge base on a network as a source for conversions. -/
def remoteSource {σ : Type} (r : Remote σ) : Source (StateM (Session σ)) where
  lookups := r.lookups
  failureCount := do return (← get).failures.length

/-- Runs the command on a network. -/
def run {σ : Type} (net : Network σ) (files : Files) (c : Command)
    (phrasing : Nat → Phrasing := fun _ => .silent) :
    StateM (Session σ) (Except Document.Mismatch Report) :=
  match prepare files c with
  | .error (.input reason) => return .ok { code := 1, error := reason }
  | .error (.mismatch reason) => return .error reason
  | .ok job => do
    let source := remoteSource { network := net, types := job.types }
    return (← convertAll { schema := job.schema } source job.examples).map fun os =>
      .ofOutcomes c os phrasing

end GraphTalk.CommandLine
