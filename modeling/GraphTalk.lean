import GraphTalk.Text.Blank
import GraphTalk.Text.Case
import GraphTalk.Text.Accent
import GraphTalk.Text.Quoted
import GraphTalk.Text.Percent
import GraphTalk.Number.Basic
import GraphTalk.Document.Basic
import GraphTalk.Document.Printer
import GraphTalk.Document.Parser
import GraphTalk.Document.Access
import GraphTalk.Rdf.Term
import GraphTalk.Sparql.Expression
import GraphTalk.Sparql.TripleOrder
import GraphTalk.Sparql.Query
import GraphTalk.Sparql.Grammar.Group
import GraphTalk.Sparql.Parse
import GraphTalk.Program.Render
import GraphTalk.Program.Node
import GraphTalk.Schema.Basic
import GraphTalk.Utterance.Span
import GraphTalk.Utterance.Similarity
import GraphTalk.Knowledge.Labels
import GraphTalk.Knowledge.World
import GraphTalk.Conversion.Generate
import GraphTalk.Dataset.Batch
import GraphTalk.CommandLine.Run
import GraphTalk.Main
import GraphTalk.Proofs.Conversion.Inversion
import GraphTalk.Proofs.Conversion.Steps
import GraphTalk.Proofs.Conversion.Atlas
import GraphTalk.Proofs.Conversion.Selection
import GraphTalk.Proofs.Conversion.Question
import GraphTalk.Proofs.Meaning.Union
import GraphTalk.Proofs.Meaning.Question
import GraphTalk.Proofs.Schema.Names
import GraphTalk.Proofs.Number.Characters
import GraphTalk.Proofs.Program.Unambiguous
import GraphTalk.Proofs.Conversion.Effects
import GraphTalk.Proofs.Conversion.Records
import GraphTalk.Proofs.Conversion.Provenance
import GraphTalk.Proofs.Conversion.Order
import GraphTalk.Proofs.Conversion.Account
import GraphTalk.Proofs.Conversion.Invariants
import GraphTalk.Proofs.Conversion.Typing
import GraphTalk.Proofs.Conversion.Composition
import GraphTalk.Proofs.Conversion.Checks
import GraphTalk.Proofs.Conversion.Messages
import GraphTalk.Proofs.Dataset.Pointwise
import GraphTalk.Proofs.Text.Spacing
import GraphTalk.Proofs.Result
import GraphTalk.Proofs.Knowledge.Urls
import GraphTalk.Proofs.Knowledge.Calls
import GraphTalk.Proofs.Knowledge.Transparency
import GraphTalk.Proofs.Knowledge.Growth
import GraphTalk.Proofs.Knowledge.Retention
import GraphTalk.Proofs.Knowledge.Integrity
import GraphTalk.Proofs.Number.Rounding
import GraphTalk.Proofs.Number.Readback
import GraphTalk.Proofs.Document.Numerals
import GraphTalk.Proofs.Document.Proper
import GraphTalk.Proofs.Document.RoundTrip
import GraphTalk.Proofs.Knowledge.Outcomes
import GraphTalk.Proofs.Knowledge.Answers
import GraphTalk.Proofs.Knowledge.Labels
import GraphTalk.Proofs.Text.Table
import GraphTalk.Proofs.Program.Texts
import GraphTalk.Proofs.Dataset.Attempts
import GraphTalk.Proofs.Dataset.Rows
import GraphTalk.Proofs.Dataset.Completion
import GraphTalk.Proofs.Conversion.Subjects
import GraphTalk.Proofs.Conversion.Visibility
import GraphTalk.Proofs.Conversion.Aggregation
import GraphTalk.Proofs.Sparql.Conjuncts
import GraphTalk.Proofs.Conversion.Leaves
import GraphTalk.Proofs.Conversion.GroupBounds
import GraphTalk.Proofs.Rdf.LexicalForms
import GraphTalk.Proofs.Conversion.Numbers
import GraphTalk.Proofs.Conversion.Readings
import GraphTalk.Proofs.Conversion.Repetition
import GraphTalk.Proofs.Sparql.Flattening
import GraphTalk.Proofs.Knowledge.Names
import GraphTalk.Proofs.Knowledge.Types
import GraphTalk.Proofs.Utterance.Similarity
import GraphTalk.Proofs.Utterance.Closest
import GraphTalk.Proofs.Utterance.Spans
import GraphTalk.Proofs.Conversion.Display
import GraphTalk.Proofs.Knowledge.Keys
import GraphTalk.Proofs.Knowledge.Batches
import GraphTalk.Proofs.Utterance.Overlap
import GraphTalk.Proofs.Utterance.Enumeration
import GraphTalk.Proofs.Text.Trimming
import GraphTalk.Proofs.Schema.FieldTypes
import GraphTalk.Proofs.Schema.Declarations
import GraphTalk.Proofs.Text.Lines
import GraphTalk.Proofs.Schema.Entries
import GraphTalk.Proofs.Schema.Manifests
import GraphTalk.Proofs.Text.Words
import GraphTalk.Proofs.Dataset.Spacing
import GraphTalk.Proofs.Rdf.Simplification
import GraphTalk.Proofs.Sparql.TripleOrder
import GraphTalk.Proofs.Sparql.Readers
import GraphTalk.Proofs.Sparql.Spliced
import GraphTalk.Proofs.Conversion.Predicates
import GraphTalk.Proofs.Program.Equality
import GraphTalk.Proofs.Conversion.Histories
