import GraphTalk.Document.Basic

/-!
# Reaching into documents

A document that came from elsewhere may have any shape. Each way of reaching into one says how it
fails on a shape it does not fit.
-/

namespace GraphTalk.Document

/-- Why a document could not be used as it was asked for. -/
inductive Mismatch where
  /-- An object or a text was needed for what was asked, and there was something else. -/
  | wrongKind
  /-- What was there has no parts that can be asked for in this way. -/
  | noParts
  /-- The object has no member of that name. -/
  | noMember
  /-- The list has no item at that place. -/
  | noItem
deriving DecidableEq, Repr

/-- The members of an object. -/
def members : Document → Except Mismatch (List (String × Document))
  | .object ms => .ok ms
  | _ => .error .wrongKind

/-- The member of an object that may lack it. -/
def member? (d : Document) (name : String) : Except Mismatch (Option Document) :=
  d.members.map fun ms => ms.lookup name

/-- The member of an object that may lack it, with a value for that case. -/
def memberD (d : Document) (name : String) (default : Document) : Except Mismatch Document :=
  (d.member? name).map fun v => v.getD default

/-- The part of a document under a name. -/
def part (d : Document) (name : String) : Except Mismatch Document :=
  match d with
  | .object ms => match ms.lookup name with
    | some v => .ok v
    | none => .error .noMember
  | _ => .error .noParts

/-- The parts of a document one after the other: the items of an array, the names of an object,
the characters of a text. -/
def parts : Document → Except Mismatch (List Document)
  | .array items => .ok items
  | .object ms => .ok (ms.map fun m => .text m.1)
  | .text s => .ok (s.toList.map fun c => .text (String.ofList [c]))
  | _ => .error .noParts

/-- The first part of a document. -/
def firstPart : Document → Except Mismatch Document
  | .array (x :: _) => .ok x
  | .array [] => .error .noItem
  | .text s => match s.toList with
    | c :: _ => .ok (.text (String.ofList [c]))
    | [] => .error .noItem
  | .object _ => .error .noMember
  | _ => .error .noParts

/-- A text or an array without its first parts. -/
def dropParts (n : Nat) : Document → Except Mismatch Document
  | .text s => .ok (.text (String.ofList (s.toList.drop n)))
  | .array items => .ok (.array (items.drop n))
  | _ => .error .noParts

/-- The text that a document is. -/
def asText : Document → Except Mismatch String
  | .text s => .ok s
  | _ => .error .wrongKind

/-- Whether a name or a text occurs in a document: as the name of a member, as an item, or inside
a text. -/
def holds (d : Document) (name : String) : Except Mismatch Bool :=
  match d with
  | .object ms => .ok (ms.lookup name).isSome
  | .array items => .ok (items.any fun x => x.same (.text name))
  | .text s => .ok (Text.occursIn name s)
  | _ => .error .noParts

/-- The document itself unless it is empty. -/
def something? : Document → Option Document
  | .null => none
  | d => some d

/-- The document itself if it counts as something, else another. -/
def orElse (d other : Document) : Document := if d.isTruthy then d else other

end GraphTalk.Document
