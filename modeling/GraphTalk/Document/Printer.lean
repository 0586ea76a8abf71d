import GraphTalk.Document.Basic

/-!
# Writing documents

A document as JSON text in ASCII, with a space after each comma and colon.
-/

namespace GraphTalk.Document

/-- A number below `2 ^ 16` as an escape. -/
def escapeUnit (n : Nat) : List Char := '\\' :: 'u' :: Text.hexPadded 4 n

/-- A character inside a JSON string. What lies beyond `2 ^ 16` is written as two units. -/
def escapeChar (c : Char) : List Char :=
  if c == '"' then ['\\', '"']
  else if c == '\\' then ['\\', '\\']
  else if c == '\n' then ['\\', 'n']
  else if c == '\r' then ['\\', 'r']
  else if c == '\t' then ['\\', 't']
  else if c.toNat == 0x0C then ['\\', 'f']
  else if c.toNat == 0x08 then ['\\', 'b']
  else if 0x20 ≤ c.toNat && c.toNat ≤ 0x7E then [c]
  else if c.toNat < 0x10000 then escapeUnit c.toNat
  else
    let n := c.toNat - 0x10000
    escapeUnit (0xD800 + n / 0x400) ++ escapeUnit (0xDC00 + n % 0x400)

/-- A JSON string. -/
def writeText (s : String) : List Char := '"' :: s.toList.flatMap escapeChar ++ ['"']

/-- A JSON number; the words for what is not finite are those that the reader knows. -/
def writeNumber : Number → List Char
  | .float .nan => "NaN".toList
  | .float (.infinity negative) => (if negative then "-Infinity" else "Infinity").toList
  | n => n.describe.toList

mutual

/-- A document as JSON text. -/
def writeChars : Document → List Char
  | .null => "null".toList
  | .bool b => (if b then "true" else "false").toList
  | .number n => writeNumber n
  | .text s => writeText s
  | .array items => '[' :: writeItems items ++ [']']
  | .object members => '\x7b' :: writeMembers members ++ ['\x7d']

/-- Items with a comma and a space between them. -/
def writeItems : List Document → List Char
  | [] => []
  | [x] => writeChars x
  | x :: y :: rest => writeChars x ++ ',' :: ' ' :: writeItems (y :: rest)

/-- Members with a comma and a space between them. -/
def writeMembers : List (String × Document) → List Char
  | [] => []
  | [(name, x)] => writeText name ++ ':' :: ' ' :: writeChars x
  | (name, x) :: m :: rest =>
    writeText name ++ ':' :: ' ' :: writeChars x ++ ',' :: ' ' :: writeMembers (m :: rest)

end

/-- A document as JSON text. -/
def write (d : Document) : String := String.ofList d.writeChars

end GraphTalk.Document
