/-!
# Blanks, words and lines

Which characters count as blank and which end a line, and the operations on text that depend on
it: trimming, cutting into words and lines, and collapsing runs of blanks.

Every operation is defined on lists of characters; the functions on `String` wrap them.
-/

namespace GraphTalk.Text

/-- The blanks: the ASCII controls and separators that space text, and the Unicode spaces. A
zero-width space and a byte-order mark are not blank. -/
def isBlank (c : Char) : Bool :=
  let n := c.toNat
  (0x09 ≤ n && n ≤ 0x0D) || (0x1C ≤ n && n ≤ 0x20) || n == 0x85 || n == 0xA0 || n == 0x1680 ||
  (0x2000 ≤ n && n ≤ 0x200A) || n == 0x2028 || n == 0x2029 || n == 0x202F || n == 0x205F ||
  n == 0x3000

/-- The characters that end a line. -/
def isLineBreak (c : Char) : Bool :=
  let n := c.toNat
  (0x0A ≤ n && n ≤ 0x0D) || (0x1C ≤ n && n ≤ 0x1E) || n == 0x85 || n == 0x2028 || n == 0x2029

/-! ### Lists of characters -/

namespace Chars

/-- Without the characters at the end that satisfy `p`. -/
def dropWhileEnd (p : Char → Bool) (cs : List Char) : List Char :=
  (cs.reverse.dropWhile p).reverse

/-- Without the blanks at both ends. -/
def strip (cs : List Char) : List Char :=
  dropWhileEnd isBlank (cs.dropWhile isBlank)

/-- The maximal runs of characters that are not blank, in order. -/
def words : List Char → List (List Char)
  | [] => []
  | c :: cs =>
    if isBlank c then words cs
    else match cs with
      | [] => [[c]]
      | d :: _ =>
        if isBlank d then [c] :: words cs
        else match words cs with
          | [] => [[c]]
          | w :: ws => (c :: w) :: ws

/-- Each run of blanks written as one space; `inside` says that the text before ended in a
blank, whose space is already written. -/
def collapseFrom (inside : Bool) : List Char → List Char
  | [] => []
  | c :: cs =>
    if isBlank c then
      if inside then collapseFrom true cs else ' ' :: collapseFrom true cs
    else c :: collapseFrom false cs

/-- Each run of blanks written as one space. -/
def collapse : List Char → List Char := collapseFrom false

/-- The lines of a text, without their ends. A carriage return with the line feed after it is one
end, and the end of the last line opens no further line. -/
def lines : List Char → List (List Char)
  | [] => []
  | '\r' :: '\n' :: cs => [] :: lines cs
  | c :: cs =>
    if isLineBreak c then [] :: lines cs
    else match lines cs with
      | [] => [[c]]
      | l :: ls => (c :: l) :: ls

/-- The parts of a text between the occurrences of a separator, which is not empty. -/
def splitOn (sep : List Char) : List Char → List (List Char) := go []
where
  /-- Cuts the rest, when `part` holds the characters since the last cut, in reverse. -/
  go (part : List Char) (cs : List Char) : List (List Char) :=
    match cs with
    | [] => [part.reverse]
    | c :: rest =>
      if sep.isPrefixOf (c :: rest) then
        part.reverse :: go [] (rest.drop (sep.length - 1))
      else go (c :: part) rest
  termination_by cs.length
  decreasing_by all_goals (simp_all; try omega)

/-- Whether a list of characters is a contiguous part of another. -/
def occursIn (part : List Char) : List Char → Bool
  | [] => part.isEmpty
  | c :: cs => part.isPrefixOf (c :: cs) || occursIn part cs

end Chars

/-! ### Strings -/

/-- Without the blanks at both ends. -/
def strip (s : String) : String := String.ofList (Chars.strip s.toList)

/-- The words of a text. -/
def words (s : String) : List String := (Chars.words s.toList).map String.ofList

/-- The lines of a text. -/
def lines (s : String) : List String := (Chars.lines s.toList).map String.ofList

/-- The normal form of spacing: no blank at either end, one space between words. -/
def normalizeBlanks (s : String) : String :=
  String.ofList (Chars.collapse (Chars.strip s.toList))

/-- The parts of a text between the occurrences of a separator. -/
def splitOn (sep s : String) : List String :=
  (Chars.splitOn sep.toList s.toList).map String.ofList

/-- Whether a text is a contiguous part of another. -/
def occursIn (part s : String) : Bool := Chars.occursIn part.toList s.toList

/-- Words with one space between them. -/
def joinWords (ws : List String) : String := String.intercalate " " ws

/-- The rest of a text after a given start, if it has that start. -/
def dropStart? (start s : String) : Option String :=
  if start.toList.isPrefixOf s.toList then
    some (String.ofList (s.toList.drop start.toList.length))
  else none

theorem dropStart?_append (start s : String) : dropStart? start (start ++ s) = some s := by
  simp [dropStart?]

theorem dropStart?_eq_some_iff {start s rest : String} :
    dropStart? start s = some rest ↔ s = start ++ rest := by
  constructor
  · intro h
    simp only [dropStart?, Option.ite_none_right_eq_some, Option.some.injEq] at h
    obtain ⟨hstart, rfl⟩ := h
    obtain ⟨more, hmore⟩ := List.isPrefixOf_iff_prefix.mp hstart
    rw [← String.toList_inj, String.toList_append, String.toList_ofList, ← hmore]
    simp
  · rintro rfl
    exact dropStart?_append start rest

end GraphTalk.Text
