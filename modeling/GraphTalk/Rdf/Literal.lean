import GraphTalk.Number.Basic

/-!
# Literals

A literal is a text with a language or a datatype. Literals of the numeric datatypes have values.
-/

namespace GraphTalk.Rdf

/-- The namespace of the standard datatypes. -/
def datatypeNamespace : String := "http://www.w3.org/2001/XMLSchema#"

/-- A literal. -/
structure Literal where
  /-- The text as it is written. -/
  text : String
  /-- The language, if the text has one. -/
  language : Option String := none
  /-- The IRI of the datatype, if it is given. -/
  datatype : Option String := none
deriving DecidableEq, Repr, Inhabited

/-- What kind of value a datatype has. -/
inductive ValueSpace where
  | integer
  | decimal
  | double
  | boolean
  | text
  | other
deriving DecidableEq, Repr

/-- The datatypes whose values are integers. -/
def integerTypes : List String :=
  ["integer", "nonPositiveInteger", "negativeInteger", "long", "int", "short", "byte",
   "nonNegativeInteger", "positiveInteger", "unsignedLong", "unsignedInt", "unsignedShort",
   "unsignedByte"]

/-- The values of a datatype; a literal without one is a text. -/
def valueSpace : Option String → ValueSpace
  | none => .text
  | some iri => match Text.dropStart? datatypeNamespace iri with
    | none => .other
    | some name =>
      if integerTypes.contains name then .integer
      else if name == "decimal" then .decimal
      else if name == "double" || name == "float" then .double
      else if name == "boolean" then .boolean
      else if name == "string" then .text
      else .other

namespace Literal

/-- A literal of a standard datatype. -/
def typed (text type : String) : Literal :=
  { text := text, datatype := some (datatypeNamespace ++ type) }

/-- The number that a literal stands for: an integer or a double. A decimal fraction is kept as
text and is not one of them. -/
def number? (l : Literal) : Option Number :=
  match valueSpace l.datatype with
  | .integer => (Number.readInt? l.text).map .int
  | .double => (Number.readDouble? l.text).map .float
  | _ => none

/-- The exact value of the digits of a decimal. -/
def readDecimal? (s : String) : Option Rat :=
  let (negative, cs) := Number.sign (Text.Chars.strip s.toList)
  match Number.readDecimal? cs with
  | some (whole, fraction, e) =>
    let digits := Number.ofDigits (whole ++ fraction)
    let e := e - fraction.length
    if e.natAbs > 5000 then none
    else
      let q := mkRat (digits * Double.tenTo e.toNat) (Double.tenTo (-e).toNat)
      some (if negative then -q else q)
  | none => none

/-- The place of a numeric literal on the number line. -/
inductive Magnitude where
  | lowest
  | finite (value : Rat)
  | highest

/-- Order on the number line. -/
def Magnitude.lt : Magnitude → Magnitude → Bool
  | .lowest, .lowest => false
  | .lowest, _ => true
  | .finite a, .finite b => a < b
  | .finite _, .highest => true
  | _, _ => false

/-- Where the value of a numeric literal lies, whatever its numeric datatype. -/
def magnitude? (l : Literal) : Option Magnitude :=
  match valueSpace l.datatype with
  | .decimal => (readDecimal? l.text).map .finite
  | _ => match l.number? with
    | some (.float (.infinity true)) => some .lowest
    | some (.float (.infinity false)) => some .highest
    | some n => n.toRat?.map .finite
    | none => none

/-- Whether a literal counts as true where a condition is asked for: a value other than zero and
false, or a text that is not empty. -/
def isTruthy (l : Literal) : Bool :=
  match valueSpace l.datatype with
  | .boolean => l.text.toLower == "true" || l.text == "1"
  | .integer => match Number.readInt? l.text with
    | some n => n != 0
    | none => l.text != ""
  | .double => match Number.readDouble? l.text with
    | some x => !(Number.float x).same (.int 0)
    | none => l.text != ""
  | .decimal => match readDecimal? l.text with
    | some q => q != 0
    | none => l.text != ""
  | _ => l.text != ""

/-- The same literal: the same text and datatype, and the same language in any case. -/
def same (a b : Literal) : Bool :=
  a.text == b.text && a.datatype == b.datatype &&
  a.language.map String.toLower == b.language.map String.toLower

/-- Literals in order: numbers by value, others by datatype, then language, then text. -/
def lt (a b : Literal) : Bool :=
  match a.magnitude?, b.magnitude? with
  | some x, some y => x.lt y
  | _, _ =>
    let type (l : Literal) := l.datatype.getD (datatypeNamespace ++ "string")
    if type a != type b then type a < type b
    else match a.language, b.language with
      | none, some _ => true
      | some _, none => false
      | some x, some y => if x != y then x < y else textLt
      | none, none => textLt
where
  /-- The order by text; of equal texts the one without a datatype comes first. -/
  textLt : Bool :=
    if a.text != b.text then a.text < b.text
    else a.datatype.isNone && b.datatype.isSome

end Literal

end GraphTalk.Rdf
