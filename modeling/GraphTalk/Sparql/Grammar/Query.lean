import GraphTalk.Sparql.Grammar.Group

/-!
# Reading queries
-/

namespace GraphTalk.Sparql

open Rdf Reader

/-- What a query asks for. -/
inductive Form where
  /-- Solutions; no item means all variables. -/
  | select (distinct : Bool) (items : List ProjectionItem)
  | ask
  | construct
  | describe

/-- A query as it is written. -/
structure QueryText where
  form : Form
  pattern : GroupPattern
  modifiers : SolutionModifiers

/-! ### Before the query -/

/-- Sets the base. -/
def baseDeclaration : Reader Unit := do
  keyword "BASE"
  skip
  let base ← scan scanIriRef?
  modify fun c => { c with base }

/-- Binds a prefix. -/
def prefixDeclaration : Reader Unit := do
  keyword "PREFIX"
  skip
  let name ← scan scanNamespace?
  skip
  let ns ← iriRef
  modify fun c => { c with namespaces := c.namespaces.bind name ns }

/-- The declarations before a query. -/
def prologue : Reader Unit := do
  let _ ← many (baseDeclaration <|> prefixDeclaration)

/-! ### Forms -/

/-- Where the data of a query come from, which makes no difference here. -/
def datasetClause : Reader Unit := do
  keyword "FROM"
  let _ ← maybe (keyword "NAMED")
  let _ ← iri

/-- The pattern of a query. -/
def whereClause (inner : Nested) : Reader GroupPattern := do
  let _ ← maybe (keyword "WHERE")
  inner.group

/-- The pattern and what follows it. -/
def queryBody (inner : Nested) (form : Form) : Reader QueryText := do
  let _ ← many datasetClause
  let pattern ← whereClause inner
  let modifiers ← solutionModifiers inner
  return { form, pattern, modifiers }

/-- A query for solutions. -/
def selectQuery (inner : Nested) : Reader QueryText := do
  let (distinct, items) ← selectClause inner
  queryBody inner (.select distinct items)

/-- A query for a truth value. -/
def askQuery (inner : Nested) : Reader QueryText := do
  keyword "ASK"
  queryBody inner .ask

/-- Triples between braces, without paths. -/
def template (inner : Nested) : Reader Unit := do
  let _ ← between "\x7b" "\x7d" (maybe (triplesBlock inner false))

/-- A pattern that nothing is known of. -/
def GroupPattern.none : GroupPattern := { algebra := .empty, vars := [] }

/-- A query for new triples. -/
def constructQuery (inner : Nested) : Reader QueryText := do
  keyword "CONSTRUCT"
  (do
    template inner
    queryBody inner .construct) <|>
  (do
    let _ ← many datasetClause
    keyword "WHERE"
    template inner
    let modifiers ← solutionModifiers inner
    return { form := .construct, pattern := .none, modifiers })

/-- A query for a description. -/
def describeQuery (inner : Nested) : Reader QueryText := do
  keyword "DESCRIBE"
  (do let _ ← some1 graphName) <|> symbol "*"
  let _ ← many datasetClause
  let pattern ← maybe (whereClause inner)
  let modifiers ← solutionModifiers inner
  return { form := .describe, pattern := pattern.getD .none, modifiers }

/-- A query with its declarations, and nothing behind it. -/
def queryText (inner : Nested) : Reader QueryText := do
  prologue
  let q ← firstOf [selectQuery inner, constructQuery inner, describeQuery inner, askQuery inner]
  skip
  if (← get).rest.isEmpty then return q else failure

/-! ### Before reading -/

/-- Hexadecimal digits at the front, up to a number of them. -/
def hexRun (n : Nat) (cs : List Char) : List Char :=
  (cs.take n).takeWhile fun c => (Text.hexDigit? c).isSome

/-- Replaces the escapes of code points, of eight digits or of four, wherever they stand. An
escape that is no character makes the text unreadable. -/
def expandEscapes? (fuel : Nat) (cs : List Char) : Option (List Char) :=
  match fuel, cs with
  | 0, _ => some cs
  | _, [] => some []
  | fuel + 1, c :: rest =>
    let found := match c, rest with
      | '\\', u :: more => if u == 'u' || u == 'U' then hexRun 8 more else []
      | _, _ => []
    let size := if found.length = 8 then 8 else if found.length ≥ 4 then 4 else 0
    if size = 0 then (expandEscapes? fuel rest).map (c :: ·)
    else
      let n := Text.hexNumber (found.take size)
      if n < 0x110000 then
        (expandEscapes? fuel (rest.drop (size + 1))).map (Char.ofNat n :: ·)
      else none

/-- Replaces tabs by spaces, up to the next column that is a multiple of eight. -/
def expandTabs (column : Nat) : List Char → List Char
  | [] => []
  | c :: cs =>
    if c == '\t' then
      let width := 8 - column % 8
      List.replicate width ' ' ++ expandTabs (column + width) cs
    else if c == '\n' || c == '\r' then c :: expandTabs 0 cs
    else c :: expandTabs (column + 1) cs

/-- Reads a query and gives the place where the reader ended. -/
def readQuery? (namespaces : Namespaces) (text : String) : Option (QueryText × Cursor) :=
  match expandEscapes? text.length text.toList with
  | none => none
  | some cs =>
    let cs := expandTabs 0 cs
    let cursor : Cursor :=
      { text := cs, rest := cs, namespaces := wellKnown.bindAll namespaces }
    (queryText (Nested.ofDepth (cs.length + 1))).run cursor

end GraphTalk.Sparql
