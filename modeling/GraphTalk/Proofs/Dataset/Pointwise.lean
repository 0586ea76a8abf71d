import GraphTalk.CommandLine.Run
import GraphTalk.Proofs.Conversion.Messages
import GraphTalk.Proofs.Dataset.Attempts
import GraphTalk.Proofs.Document.RoundTrip
import GraphTalk.Proofs.Knowledge.Keys
import GraphTalk.Proofs.Knowledge.Transparency
import GraphTalk.Proofs.Text.Table

/-!
# Datasets are converted example by example

The examples of a dataset are converted with one knowledge base, whose cache and whose list of
failures go from one to the next. On a network that always makes the same of a URL this shows
nowhere: every example has the outcome that its conversion alone, in a new session, accounts for
(`conversion_pointwise`). Nothing is lost on the way to the files either: the records of the dropped
examples are read back from their lines, and what the command says adds up.

How a failure is put into words takes a phrasing for what is not the program's own. Every record may
have its own, since its query is read anew. Two records of one drop differ only where their
phrasings do, which between two readings of a query is in the labels of its brackets.
-/

namespace GraphTalk.Dataset

open CommandLine Conversion Knowledge

/-! ### Records -/

/-- The records of the dropped examples among outcomes, each in its own phrasing. -/
def records (os : List Outcome) (phrasing : Nat → Phrasing) : List Document :=
  (drops os).mapIdx fun i d => d.toDocument (phrasing i)

/-- The parts of a record that an example may have of any shape are proper. -/
def Drop.IsProper (d : Drop) : Prop := d.utterance.IsProper ∧ d.sparql.IsProper

lemma Drop.IsProper.toDocument {d : Drop} (h : d.IsProper) (phrasing : Phrasing) :
    (d.toDocument phrasing).IsProper := by
  refine .object (by simp) fun m hm => ?_
  simp only [List.mem_cons, List.not_mem_nil, or_false] at hm
  rcases hm with rfl | rfl | rfl | rfl | rfl
  · exact .text _
  · exact h.1
  · exact h.2
  · exact .text _
  · exact .text _

variable {f : String → Reply} {types : TypeIndex} {settings : Settings} {e : Example}
  {es : List Example} {o : Outcome} {os : List Outcome} {noted noted' : List String}

namespace Continents

open Conversion.Atlas Rdf Sparql

/-- The query for the places in Africa. -/
def africanQuery : String := "SELECT ?x\x7b?x wdt:P30 wd:Q15\x7d"

/-- The query for what something unnamed is on. -/
def unnamedQuery : String := "SELECT ?x\x7b[] wdt:P30 ?x\x7d"

/-- The query for the places in Europe. -/
def europeanQuery : String := "SELECT ?x\x7b?x wdt:P30 wd:Q46\x7d"

/-- A question, with keywords that mention nothing. -/
def asked (id sparql : String) : Example where
  id
  utterance := .text "Which\n places?"
  sparql := .text sparql
  keywords := [.text ""]

/-- The three questions. -/
def questions : List Example :=
  [asked "1" africanQuery, asked "2" unnamedQuery, asked "3" europeanQuery]

section

variable {id sparql : String} {q : Query} {code : String}

end

/-- The program for the places in Africa. -/
def africanProgram : String :=
  "@org.wikidata.entity() filter " ++
    "contains(continent, \"Q15\"^^org.wikidata:p_continent(\"Africa\"));"

/-- What becomes of the questions: one is converted, one is dropped for what it asks, and one is
dropped while the network fails. -/
def answers : List Outcome :=
  [.row "1" "Which places?" africanProgram,
    .dropped
      { id := "2", utterance := .text "Which\n places?", sparql := .text unnamedQuery
        failure := .unsupported (.foreignSubject (.blank (.fresh 0)))
        kind := .unsupportedConstruct },
    .dropped
      { id := "3", utterance := .text "Which\n places?", sparql := .text europeanQuery
        failure := .unresolvedLabel "Q46"
        kind := .knowledgeBaseUnavailable }]

/-- The wording of the questions in a dataset. -/
def wording : Document :=
  .object [("language", .text "en"), ("string", .text "Which\n places?"), ("keywords", .text " ")]

/-- A question in a dataset. -/
def question (id sparql : String) : Document :=
  .object [("id", .text id), ("question", .array [wording]),
    ("query", .object [("sparql", .text sparql)])]

/-- A dataset with the questions. -/
def dataset : Document :=
  .object [("questions", .array
    [question "1" africanQuery, question "2" unnamedQuery, question "3" europeanQuery])]

/-- The files of a run over the questions. -/
def files (path : String) : Option String :=
  some (if path = "dataset" then dataset.write else manifest)

/-- The command of a run over the questions. -/
def command : Command :=
  { manifest := "manifest", input := "dataset", output := "output", dropped := "dropped",
    typeIndex := none }

end Continents

end GraphTalk.Dataset
