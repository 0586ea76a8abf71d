import GraphTalk.Text.Blank

/-!
# Tables of characters

Properties of characters are given as tables in text: hexadecimal code points and ranges of them,
with blanks between. This module reads such tables.
-/

namespace GraphTalk.Text

/-- The value of a hexadecimal digit, in either case. -/
def hexDigit? (c : Char) : Option Nat :=
  if '0' ≤ c && c ≤ '9' then some (c.toNat - '0'.toNat)
  else if 'a' ≤ c && c ≤ 'f' then some (c.toNat - 'a'.toNat + 10)
  else if 'A' ≤ c && c ≤ 'F' then some (c.toNat - 'A'.toNat + 10)
  else none

/-- The number that hexadecimal digits denote; other characters are passed over. -/
def hexNumber (cs : List Char) : Nat :=
  cs.foldl (fun n c => match hexDigit? c with
    | some d => 16 * n + d
    | none => n) 0

namespace CharTable

/-- A set of characters, as closed ranges of code points. -/
abbrev Ranges := List (Nat × Nat)

/-- The entries of a table, with the fields that a separator cuts each into. -/
def entries (sep : Char) (table : String) : List (List Nat) :=
  (Chars.words table.toList).map fun entry => (Chars.splitOn [sep] entry).map hexNumber

/-- A set of characters from its table: `41-5a` is a range and `aa` is one code point. -/
def ranges (table : String) : Ranges :=
  (entries '-' table).filterMap fun
    | [lo] => some (lo, lo)
    | [lo, hi] => some (lo, hi)
    | _ => none

/-- Whether a code point is in a set. -/
def Ranges.holds (rs : Ranges) (n : Nat) : Bool :=
  rs.any fun r => r.1 ≤ n && n ≤ r.2

end CharTable

end GraphTalk.Text
