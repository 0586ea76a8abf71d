import GraphTalk.Text.CharTable

/-!
# Decimal digits

The decimal digits of all scripts, each script's ten in a row.
-/

namespace GraphTalk.Text

/-- The zeros of the scripts. -/
def zeros : List Nat := (CharTable.entries '-' table).filterMap List.head?
where
  /-- The zeros as a table. -/
  table : String :=
    "30 660 6f0 7c0 966 9e6 a66 ae6 b66 be6 c66 ce6 d66 de6 e50 ed0 f20 1040 1090 17e0 1810 1946
    19d0 1a80 1a90 1b50 1bb0 1c40 1c50 a620 a8d0 a900 a9d0 a9f0 aa50 abf0 ff10 104a0 10d30 11066
    110f0 11136 111d0 112f0 11450 114d0 11650 116c0 11730 118e0 11950 11c50 11d50 11da0 16a60
    16ac0 16b50 1d7ce 1d7d8 1d7e2 1d7ec 1d7f6 1e140 1e2f0 1e950 1fbf0"

/-- The value of a decimal digit of any script. -/
def digitValue? (c : Char) : Option Nat :=
  let n := c.toNat
  if n < 0x80 then
    if '0' ≤ c && c ≤ '9' then some (n - '0'.toNat) else none
  else match zeros.find? fun z => z ≤ n && n ≤ z + 9 with
    | some z => some (n - z)
    | none => none

/-- Whether a character is an ASCII digit. -/
def isDigit (c : Char) : Bool := '0' ≤ c && c ≤ '9'

/-- The value of a run of ASCII digits. -/
def digitsValue (cs : List Char) : Nat :=
  cs.foldl (fun n c => 10 * n + (c.toNat - '0'.toNat)) 0

end GraphTalk.Text
