import GraphTalk.Document.Basic
import GraphTalk.Text.CharTable

/-!
# Reading documents

A strict reader of JSON text: nothing but blanks may stand around the value, control characters
are refused inside strings, and numbers have no leading zeros. The words `NaN`, `Infinity` and
`-Infinity` are read as doubles.

Values nest, so the readers take the nesting depth that is left; the length of the text is always
enough.
-/

namespace GraphTalk.Document

/-- The blanks that may stand between the parts of a document. -/
def isJsonBlank (c : Char) : Bool := c == ' ' || c == '\t' || c == '\n' || c == '\r'

/-- Passes over blanks. -/
def skipBlanks (cs : List Char) : List Char := cs.dropWhile isJsonBlank

/-- Four hexadecimal digits as a number, and the rest. -/
def readUnit? : List Char → Option (Nat × List Char)
  | a :: b :: c :: d :: rest =>
    match Text.hexDigit? a, Text.hexDigit? b, Text.hexDigit? c, Text.hexDigit? d with
    | some w, some x, some y, some z => some (((w * 16 + x) * 16 + y) * 16 + z, rest)
    | _, _, _, _ => none
  | _ => none

/-- The second of two units that stand for one character. -/
def readLowUnit? : List Char → Option (Nat × List Char)
  | '\\' :: 'u' :: rest => match readUnit? rest with
    | some (n, rest) => if 0xDC00 ≤ n && n ≤ 0xDFFF then some (n, rest) else none
    | none => none
  | _ => none

/-- The character that an escape stands for, behind its `u`. -/
def readEscapedUnit? (cs : List Char) : Option (Char × List Char) :=
  match readUnit? cs with
  | none => none
  | some (n, rest) =>
    if 0xD800 ≤ n && n ≤ 0xDBFF then
      match readLowUnit? rest with
      | some (low, rest) =>
        some (Char.ofNat (0x10000 + (n - 0xD800) * 0x400 + (low - 0xDC00)), rest)
      | none => some (Char.ofNat 0xFFFD, rest)
    else if 0xDC00 ≤ n && n ≤ 0xDFFF then some (Char.ofNat 0xFFFD, rest)
    else some (Char.ofNat n, rest)

/-- The character that an escape stands for, behind its backslash. -/
def readEscape? : List Char → Option (Char × List Char)
  | '"' :: rest => some ('"', rest)
  | '\\' :: rest => some ('\\', rest)
  | '/' :: rest => some ('/', rest)
  | 'b' :: rest => some (Char.ofNat 0x08, rest)
  | 'f' :: rest => some (Char.ofNat 0x0C, rest)
  | 'n' :: rest => some ('\n', rest)
  | 'r' :: rest => some ('\r', rest)
  | 't' :: rest => some ('\t', rest)
  | 'u' :: rest => readEscapedUnit? rest
  | _ => none

/-- The characters of a string up to its closing quote, and the rest. -/
def readString? : Nat → List Char → Option (List Char × List Char)
  | 0, _ => none
  | _ + 1, [] => none
  | _ + 1, '"' :: rest => some ([], rest)
  | fuel + 1, '\\' :: rest => match readEscape? rest with
    | none => none
    | some (c, rest) => match readString? fuel rest with
      | some (s, rest) => some (c :: s, rest)
      | none => none
  | fuel + 1, c :: rest =>
    if c.toNat < 0x20 then none
    else match readString? fuel rest with
      | some (s, rest) => some (c :: s, rest)
      | none => none

/-- Splits off a run of digits. -/
def takeDigits (cs : List Char) : List Char × List Char :=
  (cs.takeWhile Text.isDigit, cs.dropWhile Text.isDigit)

/-- The digits behind a point, if there are any; else nothing is read. -/
def readFraction (cs : List Char) : Option (List Char) × List Char :=
  match cs with
  | '.' :: rest => match takeDigits rest with
    | ([], _) => (none, cs)
    | (ds, rest) => (some ds, rest)
  | _ => (none, cs)

/-- The exponent behind its mark, if it is whole; else nothing is read. -/
def readExponentPart (cs : List Char) : Option Int × List Char :=
  match cs with
  | c :: rest =>
    if c == 'e' || c == 'E' then
      let (negative, rest) := Number.sign rest
      match takeDigits rest with
      | ([], _) => (none, cs)
      | (ds, rest) =>
        let n : Int := Text.digitsValue ds
        (some (if negative then -n else n), rest)
    else (none, cs)
  | [] => (none, cs)

/-- The digits before the point: a zero alone, or digits that do not start with zero. -/
def readWhole? (cs : List Char) : Option (List Char × List Char) :=
  match cs with
  | '0' :: rest => some (['0'], rest)
  | _ => match takeDigits cs with
    | ([], _) => none
    | (ds, rest) => some (ds, rest)

/-- A number without its sign. It is an integer unless a fraction or an exponent is there. -/
def readUnsigned? (negative : Bool) (cs : List Char) : Option (Number × List Char) :=
  match readWhole? cs with
  | none => none
  | some (whole, rest) =>
    match readFraction rest with
    | (fraction, rest) => match readExponentPart rest with
      | (exponent, rest) =>
        if fraction.isNone && exponent.isNone then
          let n : Int := Text.digitsValue whole
          some (.int (if negative then -n else n), rest)
        else
          let ds := fraction.getD []
          some (.float (.ofDecimal negative (Text.digitsValue (whole ++ ds))
            (exponent.getD 0 - ds.length)), rest)

/-- The rest behind a word that the text starts with. -/
def readWord? (word : String) (cs : List Char) : Option (List Char) :=
  if word.toList.isPrefixOf cs then some (cs.drop word.toList.length) else none

/-- A number, or a word for one that is not finite. -/
def readNumber? (cs : List Char) : Option (Number × List Char) :=
  match cs with
  | '-' :: rest => match readWord? "Infinity" rest with
    | some rest => some (.float (.infinity true), rest)
    | none => readUnsigned? true rest
  | 'N' :: _ => (readWord? "NaN" cs).map fun rest => (.float .nan, rest)
  | 'I' :: _ => (readWord? "Infinity" cs).map fun rest => (.float (.infinity false), rest)
  | _ => readUnsigned? false cs

mutual

/-- The value that the text starts with, and the rest. -/
def readValue? : Nat → List Char → Option (Document × List Char)
  | 0, _ => none
  | depth + 1, cs => match cs with
    | '"' :: rest => (readString? (rest.length + 1) rest).map fun (s, rest) =>
      (.text (String.ofList s), rest)
    | '[' :: rest => match skipBlanks rest with
      | ']' :: rest => some (.array [], rest)
      | rest => (readItems? depth rest).map fun (xs, rest) => (.array xs, rest)
    | '\x7b' :: rest => match skipBlanks rest with
      | '\x7d' :: rest => some (.object [], rest)
      | rest => (readMembers? depth rest).map fun (ms, rest) => (ofMembers ms, rest)
    | 'n' :: _ => (readWord? "null" cs).map fun rest => (.null, rest)
    | 't' :: _ => (readWord? "true" cs).map fun rest => (.bool true, rest)
    | 'f' :: _ => (readWord? "false" cs).map fun rest => (.bool false, rest)
    | _ => (readNumber? cs).map fun (n, rest) => (.number n, rest)

/-- One item or more, up to the closing bracket. -/
def readItems? : Nat → List Char → Option (List Document × List Char)
  | 0, _ => none
  | depth + 1, cs => match readValue? depth cs with
    | none => none
    | some (x, rest) => match skipBlanks rest with
      | ']' :: rest => some ([x], rest)
      | ',' :: rest => (readItems? depth (skipBlanks rest)).map fun (xs, rest) => (x :: xs, rest)
      | _ => none

/-- One member or more, up to the closing brace. -/
def readMembers? : Nat → List Char → Option (List (String × Document) × List Char)
  | 0, _ => none
  | depth + 1, cs => match cs with
    | '"' :: rest => match readString? (rest.length + 1) rest with
      | none => none
      | some (name, rest) => match skipBlanks rest with
        | ':' :: rest => match readValue? depth (skipBlanks rest) with
          | none => none
          | some (x, rest) => match skipBlanks rest with
            | '\x7d' :: rest => some ([(String.ofList name, x)], rest)
            | ',' :: rest =>
              (readMembers? depth (skipBlanks rest)).map fun (ms, rest) =>
                ((String.ofList name, x) :: ms, rest)
            | _ => none
        | _ => none
    | _ => none

end

/-- The document that a text is, if it is one. -/
def parse? (s : String) : Option Document :=
  let cs := s.toList
  match readValue? (cs.length + 1) (skipBlanks cs) with
  | some (d, rest) => if (skipBlanks rest).isEmpty then some d else none
  | none => none

end GraphTalk.Document
