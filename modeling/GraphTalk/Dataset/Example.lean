import GraphTalk.Document.Access

/-!
# Examples

A dataset is a document with questions. Each question is given in several languages and with a
query; the English wording, its keywords and the query make an example.
-/

namespace GraphTalk.Dataset

/-- An example: a question in words, and as a query. Datasets may hold something else in the place
of the texts. -/
structure Example where
  id : String
  utterance : Document
  sparql : Document
  /-- The keywords of the question, or its wording if there are none. -/
  keywords : List Document

/-- The first of several wordings that is English; an empty one if there is none. -/
def firstEnglish : List Document → Except Document.Mismatch Document
  | [] => .ok (.object [])
  | d :: ds => do
    if (← d.memberD "language" .null).same (.text "en") then return d
    else firstEnglish ds

/-- The English wording of a question. -/
def english (question : Document) : Except Document.Mismatch Document := do
  firstEnglish (← ((← question.memberD "question" .null).orElse (.array [])).parts)

/-- Keywords are separated by a comma and a space. -/
def splitKeywords (s : String) : List String := (Text.splitOn ", " s).map Text.strip

/-- The keywords of a wording. -/
def keywordsOf (wording utterance : Document) : Except Document.Mismatch (List Document) := do
  let raw ← wording.memberD "keywords" .null
  if raw.isTruthy then return (splitKeywords (← raw.asText)).map .text
  else return [utterance]

/-- The example that a question is. -/
def Example.ofQuestion (question : Document) : Except Document.Mismatch Example := do
  let wording ← english question
  let utterance ← wording.memberD "string" (.text "")
  let keywords ← keywordsOf wording utterance
  let id ← question.memberD "id" .null
  let query := (← question.memberD "query" .null).orElse (.object [])
  return { id := id.plain, utterance, sparql := ← query.memberD "sparql" (.text ""), keywords }

/-- The examples of a dataset. -/
def examples (dataset : Document) : Except Document.Mismatch (List Example) := do
  (← (← dataset.memberD "questions" (.array [])).parts).mapM Example.ofQuestion

end GraphTalk.Dataset
