import GraphTalk.Document.Access
import GraphTalk.Document.Parser

/-!
# Type indices

Types of entities that are known beforehand, as a document with a member for each entity.
-/

namespace GraphTalk.Knowledge

/-- Types by entity. -/
abbrev TypeIndex := List (String × String)

/-- Why a text is no type index. -/
inductive TypeIndexError where
  /-- The text is no document. -/
  | malformed
  /-- The document is no object. -/
  | mismatch (mismatch : Document.Mismatch)

/-- The type index that a text stands for. What is no text counts as the text it is shown as. -/
def TypeIndex.parse (text : String) : Except TypeIndexError TypeIndex :=
  match Document.parse? text with
  | none => .error .malformed
  | some d => match d.members with
    | .error f => .error (.mismatch f)
    | .ok ms => .ok (ms.map fun m => (m.1, m.2.plain))

end GraphTalk.Knowledge
