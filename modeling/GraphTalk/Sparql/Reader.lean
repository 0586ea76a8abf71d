import GraphTalk.Sparql.Algebra
import GraphTalk.Sparql.Namespace
import GraphTalk.Text.CharTable

/-!
# Reading the parts of a query

A reader takes a part off the front of the text that is left, or fails without taking anything.
Choices are ordered: the first alternative that succeeds is taken for good.

This module has the readers for what is written without inner structure: names, variables,
numbers, strings, keywords.
-/

namespace GraphTalk.Sparql

open Rdf

/-- Where a reader stands. -/
structure Cursor where
  /-- The whole text. -/
  text : List Char
  /-- The text that is left, which is an end of the whole. -/
  rest : List Char
  /-- The IRI that relative ones are relative to. -/
  base : String := ""
  namespaces : Namespaces := []
  /-- The number of blank nodes that brackets have stood for so far. -/
  fresh : Nat := 0
  /-- A negated decimal has been read, which no query may have. -/
  malformed : Bool := false
  /-- A name without a namespace has been read. -/
  unresolved : Bool := false

/-- A reader of a part of a query. -/
abbrev Reader := StateT Cursor Option

/-! ### Combinators -/

namespace Reader

/-- Takes off the front of the text what a function finds there. -/
def scan {α : Type} (f : List Char → Option (α × List Char)) : Reader α := fun c =>
  match f c.rest with
  | some (a, rest) => some (a, { c with rest })
  | none => none

/-- What a reader finds, if it finds anything. -/
def maybe {α : Type} (p : Reader α) : Reader (Option α) := (some <$> p) <|> pure none

/-- Reads as often as possible, at most a given number of times. -/
def upTo {α : Type} : Nat → Reader α → Reader (List α)
  | 0, _ => pure []
  | n + 1, p => (do
      let x ← p
      let xs ← upTo n p
      return x :: xs) <|> pure []

/-- Reads as often as possible. -/
def many {α : Type} (p : Reader α) : Reader (List α) := fun c => upTo c.rest.length p c

/-- Reads once or more. -/
def some1 {α : Type} (p : Reader α) : Reader (List α) := do
  let x ← p
  let xs ← many p
  return x :: xs

/-- The first of several readers that succeeds. -/
def firstOf {α : Type} : List (Reader α) → Reader α
  | [] => failure
  | p :: ps => p <|> firstOf ps

end Reader

open Reader

/-! ### Blanks and keywords -/

/-- Passes over blanks and comments; a comment ends with its line. -/
def skipIgnored (comment : Bool) : List Char → List Char
  | [] => []
  | c :: cs =>
    if comment then skipIgnored (c != '\n') cs
    else if c == ' ' || c == '\t' || c == '\n' || c == '\r' then skipIgnored false cs
    else if c == '#' then skipIgnored true cs
    else c :: cs

/-- Passes over blanks and comments. -/
def skip : Reader Unit := scan fun cs => some ((), skipIgnored false cs)

/-- Takes a text that stands right here. -/
def exactly (text : String) : Reader Unit :=
  scan fun cs =>
    if text.toList.isPrefixOf cs then some ((), cs.drop text.toList.length) else none

/-- Takes a mark behind blanks. -/
def symbol (text : String) : Reader Unit := do
  skip
  exactly text

/-- The characters that keywords are made of. -/
def isWordChar (c : Char) : Bool := c.isAlphanum || c == '_' || c == '$'

/-- Whether the character before the cursor is one that keywords are made of. -/
def Cursor.insideWord (c : Cursor) : Bool :=
  match (c.text.take (c.text.length - c.rest.length)).getLast? with
  | some d => isWordChar d
  | none => false

/-- Takes a whole word behind blanks and gives it in upper case. -/
def word : Reader String := do
  skip
  if (← get).insideWord then failure
  scan fun cs => match cs.takeWhile isWordChar with
    | [] => none
    | w => some ((String.ofList w).toUpper, cs.dropWhile isWordChar)

/-- Takes a keyword, in any case. -/
def keyword (name : String) : Reader Unit := do
  let w ← word
  if w == name then pure () else failure

/-! ### Names -/

/-- The letters that names start with. -/
def isNameStart (c : Char) : Bool :=
  let n := c.toNat
  c.isAlpha || (0xC0 ≤ n && n ≤ 0xD6) || (0xD8 ≤ n && n ≤ 0xF6) || (0xF8 ≤ n && n ≤ 0x2FF) ||
  (0x370 ≤ n && n ≤ 0x37D) || (0x37F ≤ n && n ≤ 0x1FFF) || (0x200C ≤ n && n ≤ 0x200D) ||
  (0x2070 ≤ n && n ≤ 0x218F) || (0x2C00 ≤ n && n ≤ 0x2FEF) || (0x3001 ≤ n && n ≤ 0xD7FF) ||
  (0xF900 ≤ n && n ≤ 0xFDCF) || (0xFDF0 ≤ n && n ≤ 0xFFFD) || (0x10000 ≤ n && n ≤ 0xEFFFF)

/-- The letters of names, and the underscore. -/
def isNameLetter (c : Char) : Bool := c == '_' || isNameStart c

/-- The marks that may stand inside a name but not at its start. -/
def isNameMark (c : Char) : Bool :=
  let n := c.toNat
  n == 0xB7 || (0x300 ≤ n && n ≤ 0x36F) || (0x203F ≤ n && n ≤ 0x2040)

/-- The characters of names. -/
def isNameChar (c : Char) : Bool := isNameLetter c || c == '-' || c.isDigit || isNameMark c

/-- The characters of the names of variables. -/
def isVariableChar (c : Char) : Bool := isNameLetter c || c.isDigit || isNameMark c

/-- Moves the dots at the end of a run back to what follows it. -/
def giveBackDots (taken rest : List Char) : List Char × List Char :=
  let kept := Text.Chars.dropWhileEnd (· == '.') taken
  (kept, taken.drop kept.length ++ rest)

/-- A run of characters and dots that does not end in a dot. -/
def dottedRun (p : Char → Bool) (cs : List Char) : List Char × List Char :=
  let inside (c : Char) := p c || c == '.'
  giveBackDots (cs.takeWhile inside) (cs.dropWhile inside)

/-- The prefix of a name. -/
def scanPrefix? (cs : List Char) : Option (String × List Char) :=
  match cs with
  | c :: rest =>
    if isNameStart c then
      let (more, rest) := dottedRun isNameChar rest
      some (String.ofList (c :: more), rest)
    else none
  | [] => none

/-- A prefix, which may be empty, with its colon. -/
def scanNamespace? (cs : List Char) : Option (String × List Char) :=
  let (name, rest) := (scanPrefix? cs).getD ("", cs)
  match rest with
  | ':' :: rest => some (name, rest)
  | _ => none

/-- The characters that a backslash may stand before in a name. -/
def isEscapable (c : Char) : Bool := "_~.-!$&\"'()*+,;=/?#@%".toList.contains c

/-- One character of the local part of a name: an escape or a percent sign with two digits counts
as one and is kept as it is written. -/
def scanLocalUnit? (p : Char → Bool) : List Char → Option (List Char × List Char)
  | '\\' :: c :: rest => if isEscapable c then some (['\\', c], rest) else none
  | '%' :: a :: b :: rest =>
    if (Text.hexDigit? a).isSome && (Text.hexDigit? b).isSome then some (['%', a, b], rest)
    else none
  | c :: rest => if p c then some ([c], rest) else none
  | [] => none

/-- The units of the local part of a name, at most a given number of them. -/
def scanLocalUnits (p : Char → Bool) : Nat → List Char → List Char × List Char
  | 0, cs => ([], cs)
  | n + 1, cs => match scanLocalUnit? p cs with
    | some (unit, rest) =>
      let (more, rest) := scanLocalUnits p n rest
      (unit ++ more, rest)
    | none => ([], cs)

/-- The local part of a name. -/
def scanLocal? (cs : List Char) : Option (String × List Char) :=
  match scanLocalUnit? (fun c => isNameLetter c || c.isDigit || c == ':') cs with
  | some (first, rest) =>
    let inside (c : Char) := isNameChar c || c == '.' || c == ':'
    let (more, rest) := scanLocalUnits inside rest.length rest
    let (more, rest) := giveBackDots more rest
    some (String.ofList (first ++ more), rest)
  | none => none

/-- The characters that an IRI between angle brackets may not have. -/
def isIriForbidden (c : Char) : Bool :=
  c.toNat ≤ 0x20 || "<>\"\x7b\x7d|^\x60\\".toList.contains c

/-- An IRI between angle brackets, as it is written. -/
def scanIriRef? : List Char → Option (String × List Char)
  | '<' :: cs =>
    match cs.dropWhile fun c => !isIriForbidden c with
    | '>' :: rest => some (String.ofList (cs.takeWhile fun c => !isIriForbidden c), rest)
    | _ => none
  | _ => none

/-- A name with a prefix: the prefix and the local part, which may be missing. -/
def scanPrefixedName? (cs : List Char) : Option ((String × String) × List Char) :=
  match scanNamespace? cs with
  | some (name, rest) => match scanLocal? rest with
    | some (part, rest) => some ((name, part), rest)
    | none => some ((name, ""), rest)
  | none => none

/-- An IRI between brackets, relative to the base. -/
def iriRef : Reader String := do
  let text ← scan scanIriRef?
  return resolveIri (← get).base text

/-- The IRI of a name with a prefix. A prefix without a namespace is noted. -/
def prefixedName : Reader String := do
  let (name, part) ← scan scanPrefixedName?
  match (← get).namespaces.lookup name with
  | some ns => return ns ++ part
  | none =>
    modify fun c => { c with unresolved := true }
    return part

/-- An IRI that stands right here. -/
def iriHere : Reader String := iriRef <|> prefixedName

/-- An IRI behind blanks. -/
def iri : Reader String := do
  skip
  iriHere

/-- A variable. -/
def variableName : Reader String := do
  skip
  scan fun
    | c :: d :: rest =>
      if (c == '?' || c == '$') && (isNameLetter d || d.isDigit) then
        some (String.ofList (d :: rest.takeWhile isVariableChar), rest.dropWhile isVariableChar)
      else none
    | _ => none

/-! ### Literals -/

/-- A number as it is written, without a sign. -/
inductive Numeral where
  | integer (digits : List Char)
  | decimal (whole fraction : List Char)
  | double (whole fraction : List Char) (exponent : Int)

/-- The digits at the front. -/
def scanDigits (cs : List Char) : List Char × List Char :=
  (cs.takeWhile Char.isDigit, cs.dropWhile Char.isDigit)

/-- An exponent at the front. -/
def scanExponent? : List Char → Option (Int × List Char)
  | c :: rest =>
    if c == 'e' || c == 'E' then
      let (negative, rest) := Number.sign rest
      match scanDigits rest with
      | ([], _) => none
      | (ds, rest) =>
        let n : Int := Text.digitsValue ds
        some (if negative then -n else n, rest)
    else none
  | [] => none

/-- A number at the front: a double if it has an exponent, a decimal if it has digits behind a
point, else an integer. -/
def scanNumeral? (cs : List Char) : Option (Numeral × List Char) :=
  let (whole, rest) := scanDigits cs
  let (point, fraction, after) := match rest with
    | '.' :: more =>
      let (ds, after) := scanDigits more
      (true, ds, after)
    | _ => (false, [], rest)
  if whole.isEmpty && fraction.isEmpty then none
  else match scanExponent? after with
    | some (e, after) => some (.double whole fraction e, after)
    | none =>
      if point && !fraction.isEmpty then some (.decimal whole fraction, after)
      else if whole.isEmpty then none
      else some (.integer whole, rest)

/-- The literal that a number stands for, in the normal form of its datatype. -/
def Numeral.literal (negative : Bool) : Numeral → Literal
  | .integer ds =>
    let n : Int := Text.digitsValue ds
    .typed (toString (if negative then -n else n)) "integer"
  | .decimal whole fraction =>
    .typed ((if negative then "-" else "") ++ toString (Text.digitsValue whole) ++ "." ++
      String.ofList fraction) "decimal"
  | .double whole fraction e =>
    .typed (Double.ofDecimal negative (Text.digitsValue (whole ++ fraction))
      (e - fraction.length)).render "double"

/-- A number that stands right here and is not run into by a word. -/
def numeral : Reader Numeral :=
  scan fun cs => match scanNumeral? cs with
    | some (n, c :: rest) => if isWordChar c then none else some (n, c :: rest)
    | found => found

/-- A number with or without a sign. A decimal with a minus sign makes the whole query malformed. -/
def numericLiteral : Reader Literal := do
  skip
  (do return (← numeral).literal false) <|>
  (do exactly "+"; return (← numeral).literal false) <|>
  (do
    exactly "-"
    let n ← numeral
    match n with
    | .decimal _ _ => modify fun c => { c with malformed := true }
    | _ => pure ()
    return n.literal true)

/-- A natural number. -/
def natural : Reader Nat := do
  skip
  scan fun cs => match scanDigits cs with
    | ([], _) => none
    | (_, c :: _) =>
      if isWordChar c then none else some (Text.digitsValue (scanDigits cs).1, (scanDigits cs).2)
    | (ds, []) => some (Text.digitsValue ds, [])

/-- The character that an escape in a string stands for. -/
def unescape? : Char → Option Char
  | 't' => some '\t'
  | 'b' => some (Char.ofNat 0x08)
  | 'n' => some '\n'
  | 'r' => some '\r'
  | 'f' => some (Char.ofNat 0x0C)
  | '\\' => some '\\'
  | '"' => some '"'
  | '\'' => some '\''
  | _ => none

/-- The content of a string on one line, up to its quote. -/
def scanShort? (quote : Char) : List Char → Option (List Char × List Char)
  | [] => none
  | '\\' :: c :: rest => match unescape? c, scanShort? quote rest with
    | some d, some (more, rest) => some (d :: more, rest)
    | _, _ => none
  | c :: rest =>
    if c == quote then some ([], rest)
    else if c == '\n' || c == '\r' || c == '\\' then none
    else (scanShort? quote rest).map fun (more, rest) => (c :: more, rest)

/-- The content of a string over several lines, up to its three quotes. -/
def scanLong? (quote : Char) : List Char → Option (List Char × List Char)
  | [] => none
  | '\\' :: c :: rest => match unescape? c, scanLong? quote rest with
    | some d, some (more, rest) => some (d :: more, rest)
    | _, _ => none
  | c :: rest =>
    if [quote, quote, quote].isPrefixOf (c :: rest) then some ([], rest.drop 2)
    else if c == '\\' then none
    else (scanLong? quote rest).map fun (more, rest) => (c :: more, rest)

/-- A string. One on a line may not be followed by its quote. -/
def scanString? : List Char → Option (String × List Char)
  | [] => none
  | q :: rest =>
    if q != '\'' && q != '"' then none
    else if [q, q].isPrefixOf rest then
      match scanLong? q (rest.drop 2) with
      | some (s, rest) => some (String.ofList s, rest)
      | none => none
    else match scanShort? q rest with
      | some (s, rest) => if rest.head? == some q then none else some (String.ofList s, rest)
      | none => none

/-- A language, right behind a string. -/
def scanLanguage? : List Char → Option (String × List Char)
  | '@' :: cs =>
    match cs.takeWhile Char.isAlpha with
    | [] => none
    | first =>
      let (more, rest) := subtags cs.length (cs.dropWhile Char.isAlpha)
      some (String.ofList (first ++ more), rest)
  | _ => none
where
  /-- The parts of a language behind dashes. -/
  subtags : Nat → List Char → List Char × List Char
    | 0, cs => ([], cs)
    | n + 1, '-' :: cs => match cs.takeWhile Char.isAlphanum with
      | [] => ([], '-' :: cs)
      | tag =>
        let (more, rest) := subtags n (cs.dropWhile Char.isAlphanum)
        ('-' :: tag ++ more, rest)
    | _ + 1, cs => ([], cs)

/-- A string behind blanks. -/
def string : Reader String := do
  skip
  scan scanString?

/-- A string with its language or datatype. -/
def textLiteral : Reader Literal := do
  let text ← string
  (do
    let language ← scan scanLanguage?
    return { text, language := some language }) <|>
  (do
    exactly "^^"
    let datatype ← iriHere
    return { text, datatype := some datatype }) <|>
  return { text }

/-- A truth value, in any case. -/
def booleanLiteral : Reader Literal := do
  match ← word with
  | "TRUE" => return .typed "true" "boolean"
  | "FALSE" => return .typed "false" "boolean"
  | _ => failure

/-- A literal of any kind. -/
def literal : Reader Literal := textLiteral <|> numericLiteral <|> booleanLiteral

/-! ### Terms -/

/-- The namespace of the basic vocabulary. -/
def rdfNamespace : String := "http://www.w3.org/1999/02/22-rdf-syntax-ns#"

/-- The end of every list. -/
def rdfNil : String := rdfNamespace ++ "nil"

/-- A blank node that has not been used. -/
def freshBlank : Reader Term := fun c =>
  some (.blank (.fresh c.fresh), { c with fresh := c.fresh + 1 })

/-- The label of a blank node. -/
def scanBlankLabel? : List Char → Option (String × List Char)
  | '_' :: ':' :: c :: rest =>
    if isNameLetter c || c.isDigit then
      let (more, rest) := dottedRun isNameChar rest
      some (String.ofList (c :: more), rest)
    else none
  | _ => none

/-- A blank node: by its label or as empty brackets. -/
def blankNode : Reader Term := do
  skip
  (do return .blank (.labelled (← scan scanBlankLabel?))) <|>
  (do
    symbol "["
    symbol "]"
    freshBlank)

/-- The empty list. -/
def emptyList : Reader Unit := do
  symbol "("
  symbol ")"

/-- A variable or a term without inner structure. -/
def varOrTerm : Reader Term :=
  firstOf
    [Term.variable <$> variableName,
     Term.iri <$> iri,
     Term.literal <$> literal,
     blankNode,
     do emptyList; return .iri rdfNil]

end GraphTalk.Sparql
