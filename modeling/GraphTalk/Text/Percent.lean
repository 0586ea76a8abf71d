/-!
# Percent-encoding

Text inside a URL is written as its UTF-8 bytes: unreserved ASCII characters stand for themselves,
every other byte is a percent sign with two hexadecimal digits. A `Charset` says which further
characters stand for themselves and how a space is written.
-/

namespace GraphTalk.Text

/-- What an encoding leaves as it is beyond letters, digits and `_.-~`, and how it writes a
space. -/
structure Charset where
  /-- Further characters that stand for themselves. -/
  safe : List Char := []
  /-- A space is written as a plus sign. -/
  plusForSpace : Bool := false

/-- The characters that stand for themselves in every encoding. -/
def isUnreserved (c : Char) : Bool :=
  ('A' ≤ c && c ≤ 'Z') || ('a' ≤ c && c ≤ 'z') || ('0' ≤ c && c ≤ '9') ||
  c == '_' || c == '.' || c == '-' || c == '~'

/-- An upper-case hexadecimal digit. -/
def upperHexDigit (n : Nat) : Char :=
  if n < 10 then Char.ofNat ('0'.toNat + n) else Char.ofNat ('A'.toNat + (n - 10))

/-- A byte as a percent sign with two digits. -/
def percentByte (b : UInt8) : List Char :=
  ['%', upperHexDigit (b.toNat / 16), upperHexDigit (b.toNat % 16)]

/-- A character inside a URL. -/
def percentChar (set : Charset) (c : Char) : List Char :=
  if isUnreserved c || set.safe.contains c then [c]
  else if c == ' ' && set.plusForSpace then ['+']
  else (String.utf8EncodeChar c).flatMap percentByte

/-- A text inside a URL. -/
def percentEncode (set : Charset) (s : String) : String :=
  String.ofList (s.toList.flatMap (percentChar set))

end GraphTalk.Text
