import GraphTalk.Text.Blank

/-!
# Spans of utterances

The ways in which an utterance may mention something: every contiguous run of its words.
-/

namespace GraphTalk.Utterance

/-- A text without blanks around it and without one mark at its end. -/
def removeEndPunctuation (s : String) : String :=
  let cs := Text.Chars.strip s.toList
  match cs.getLast? with
  | some c => String.ofList (if c == '.' || c == '!' || c == '?' then cs.dropLast else cs)
  | none => ""

/-- The words of an utterance. -/
def tokenize (s : String) : List String := Text.words (removeEndPunctuation s)

/-- The runs of a given length, by where they start. -/
def runs {α : Type} (size : Nat) (items : List α) : List (List α) :=
  (List.range (items.length + 1 - size)).map fun i => (items.drop i).take size

/-- All runs that are not empty, the shortest first, then by where they start. -/
def allRuns {α : Type} (items : List α) : List (List α) :=
  (List.range items.length).flatMap fun n => runs (n + 1) items

/-- The spans of an utterance: its runs of words with one space between two. -/
def spans (s : String) : List String := (allRuns (tokenize s)).map Text.joinWords

/-- Adds what is not yet there, in order. -/
def addNew (seen : List String) : List String → List String
  | [] => seen
  | s :: ss => addNew (if seen.contains s then seen else seen ++ [s]) ss

/-- The spans of several utterances, each once, in the order in which they are first met. -/
def keywordSpans (keywords : List String) : List String :=
  keywords.foldl (fun seen k => addNew seen (spans k)) []

end GraphTalk.Utterance
