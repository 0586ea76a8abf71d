import GraphTalk.Document.Basic
import GraphTalk.Number.Significant

/-!
# The cache of a knowledge base

Two tables with two columns of text each: the bodies of replies by URL, and labels by entity. The
first column is the key of a table. A row is never changed: what is written under a key that is
there is dropped.
-/

namespace GraphTalk.Knowledge

/-! ### Rows -/

/-- A row of a table. Both columns may be empty. -/
structure Row where
  key : Option String
  value : Option String
deriving DecidableEq, Repr

/-- A column of a table. -/
inductive Column where
  | key
  | value
deriving DecidableEq, Repr

/-- What a row holds in a column. -/
def Row.get (r : Row) : Column → Option String
  | .key => r.key
  | .value => r.value

/-- The rows of a table, the oldest first. -/
abbrev Rows := List Row

namespace Rows

/-- The first row with a text in a column. -/
def find? (rows : Rows) (column : Column) (text : String) : Option Row :=
  List.find? (fun r => r.get column == some text) rows

/-- The row of a key. -/
def row? (rows : Rows) (key : String) : Option Row := rows.find? .key key

/-- Writes a row unless its key is there. Rows without a key are always written. -/
def insert (rows : Rows) (r : Row) : Rows :=
  match r.key with
  | some key => if (rows.row? key).isSome then rows else rows ++ [r]
  | none => rows ++ [r]

/-- What is written under a key that is there is dropped. -/
theorem insert_of_row? {rows : Rows} {key : String} {old : Row} (value : Option String)
    (h : rows.row? key = some old) : rows.insert { key := some key, value } = rows := by
  simp [insert, h]

/-- What is written under a new key is found there. -/
theorem row?_insert_self {rows : Rows} {key : String} (value : Option String)
    (h : rows.row? key = none) :
    (rows.insert { key := some key, value }).row? key = some { key := some key, value } := by
  simp only [insert, h]
  simp only [row?, find?] at h ⊢
  rw [if_neg (by simp), List.find?_append, h]
  simp [Row.get]

end Rows

/-! ### What a column can hold -/

/-- Why a document cannot be stored. -/
inductive Unstorable where
  /-- Arrays and objects are no content of a column. -/
  | compound
  /-- Integers beyond 64 bits are no content of a column. -/
  | tooLarge
deriving DecidableEq, Repr

/-- Whether an integer has at most 64 bits. -/
def fits (n : Int) : Bool := -9223372036854775808 ≤ n && n < 9223372036854775808

/-- What a column holds of a document: everything is stored as text. -/
def columnText : Document → Except Unstorable (Option String)
  | .null => .ok none
  | .bool b => .ok (some (if b then "1" else "0"))
  | .number (.int n) => if fits n then .ok (some (toString n)) else .error .tooLarge
  | .number (.float x) => .ok x.columnText?
  | .text s => .ok (some s)
  | .array _ => .error .compound
  | .object _ => .error .compound

/-- What a column that may be empty holds, as a document. -/
def columnDocument : Option String → Document
  | some s => .text s
  | none => .null

/-! ### The two tables -/

/-- The cache of a knowledge base. -/
structure Cache where
  /-- The bodies of replies by URL. -/
  replies : Rows := []
  /-- Labels by entity. -/
  labels : Rows := []
deriving Repr

namespace Cache

/-- A table of the cache. -/
inductive Table where
  | replies
  | labels
deriving DecidableEq, Repr

/-- The table of a name. -/
def Table.ofName? : String → Option Table
  | "http_requests" => some .replies
  | "labels" => some .labels
  | _ => none

/-- The column of a name. -/
def Table.column? (t : Table) (name : String) : Option Column :=
  match t, name with
  | .replies, "url" => some .key
  | .replies, "result" => some .value
  | .labels, "id" => some .key
  | .labels, "label" => some .value
  | _, _ => none

/-- The rows of a table. -/
def rows (c : Cache) : Table → Rows
  | .replies => c.replies
  | .labels => c.labels

/-- Writes a row unless its key is there. -/
def insert (c : Cache) (t : Table) (r : Row) : Cache :=
  match t with
  | .replies => { c with replies := c.replies.insert r }
  | .labels => { c with labels := c.labels.insert r }

end Cache

end GraphTalk.Knowledge
