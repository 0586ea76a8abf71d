import GraphTalk.Number.Shortest
import GraphTalk.Text.Blank
import GraphTalk.Text.Digit

/-!
# Numbers

A number is an integer of any size or a double. The two kinds are compared by value.
-/

namespace GraphTalk

/-- A number: an integer or a double. -/
inductive Number where
  | int (value : Int)
  | float (value : Double)
deriving DecidableEq, Repr, Inhabited

namespace Number

/-- The exact value of a number, if it is finite. -/
def toRat? : Number → Option Rat
  | .int n => some n
  | .float x => x.toRat?

/-- Whether two numbers are equal in value. What is not a number equals nothing, and the sign of
zero does not count. -/
def same : Number → Number → Bool
  | .float (.infinity s), .float (.infinity t) => s == t
  | a, b => match a.toRat?, b.toRat? with
    | some p, some q => p == q
    | _, _ => false

/-- The text of a number that tells integers and doubles apart. -/
def describe : Number → String
  | .int n => toString n
  | .float x => x.render

/-- The text of a number in a program: a double without a fraction is written as an integer, with
all its digits. -/
def render : Number → String
  | .int n => toString n
  | .float x => match x.toInt? with
    | some n => toString n
    | none => x.render

/-! ### Reading -/

/-- Splits off a sign. -/
def sign (cs : List Char) : Bool × List Char :=
  match cs with
  | '-' :: rest => (true, rest)
  | '+' :: rest => (false, rest)
  | _ => (false, cs)

/-- Whether a text starts with a digit of any script. -/
def startsWithDigit : List Char → Bool
  | [] => false
  | c :: _ => (Text.digitValue? c).isSome

/-- The values of a run of digits in any script, and what follows it. A single underscore may
stand between two digits; `inside` says that a digit stands before. -/
def digitRun (inside : Bool) : List Char → List Nat × List Char
  | [] => ([], [])
  | c :: cs => match Text.digitValue? c with
    | some d =>
      let (ds, rest) := digitRun true cs
      (d :: ds, rest)
    | none =>
      if inside && c == '_' && startsWithDigit cs then digitRun false cs else ([], c :: cs)

/-- The number that digits denote. -/
def ofDigits (ds : List Nat) : Nat := ds.foldl (fun n d => 10 * n + d) 0

/-- Reads an integer, with blanks around it and a sign before it. -/
def readInt? (s : String) : Option Int :=
  let (negative, cs) := sign (Text.Chars.strip s.toList)
  match digitRun false cs with
  | (d :: ds, []) =>
    let n : Int := ofDigits (d :: ds)
    some (if negative then -n else n)
  | _ => none

/-- Reads an exponent behind its mark, or nothing at the end of the text. -/
def readExponent? : List Char → Option Int
  | [] => some 0
  | c :: cs =>
    if c == 'e' || c == 'E' then
      let (negative, cs) := sign cs
      match digitRun false cs with
      | (d :: ds, []) =>
        let n : Int := ofDigits (d :: ds)
        some (if negative then -n else n)
      | _ => none
    else none

/-- Reads the words for numbers that are not finite. -/
def readWord? (negative : Bool) (cs : List Char) : Option Double :=
  match String.ofList (cs.map Char.toLower) with
  | "inf" => some (.infinity negative)
  | "infinity" => some (.infinity negative)
  | "nan" => some .nan
  | _ => none

/-- The digits before and after the point, and the exponent, of a decimal. -/
def readDecimal? (cs : List Char) : Option (List Nat × List Nat × Int) :=
  let (whole, rest) := digitRun false cs
  let (fraction, rest) := match rest with
    | '.' :: rest => digitRun false rest
    | _ => ([], rest)
  if whole.isEmpty && fraction.isEmpty then none
  else (readExponent? rest).map fun e => (whole, fraction, e)

/-- Reads a double, with blanks around it and a sign before it. -/
def readDouble? (s : String) : Option Double :=
  let (negative, cs) := sign (Text.Chars.strip s.toList)
  match readWord? negative cs with
  | some x => some x
  | none => (readDecimal? cs).map fun (whole, fraction, e) =>
    Double.ofDecimal negative (ofDigits (whole ++ fraction)) (e - fraction.length)

end Number

end GraphTalk
