import GraphTalk.Document.Parser

/-!
# Networks

What becomes of a request for a URL. A network may answer the same request differently each time,
so it is a function on a state.
-/

namespace GraphTalk.Knowledge

/-- What a network makes of a request. -/
inductive Reply where
  /-- A reply with a status and a body. -/
  | answer (status : Int) (body : String)
  /-- There was no reply. -/
  | unreachable
  /-- The request broke off in a way that nobody provides for. -/
  | breakdown
deriving DecidableEq, Repr

/-- A network with a state. -/
abbrev Network (σ : Type) := String → StateM σ Reply

/-- A network that always makes the same of a URL. -/
def Network.constant (f : String → Reply) : Network Unit := fun url => return f url

/-- A network that reaches nothing. -/
def Network.offline : Network Unit := .constant fun _ => .unreachable

/-! ### Attempts -/

/-- What an attempt to retrieve a document comes to. -/
inductive Attempt where
  /-- There was a document, here with its text. -/
  | success (body : String) (document : Document)
  | failure
  | breakdown

/-- Whether a status says that a request succeeded. -/
def isSuccess (status : Int) : Bool := 200 ≤ status && status < 300

/-- A reply as an attempt: it succeeds if the request did and the body is a document. -/
def Reply.attempt : Reply → Attempt
  | .answer status body =>
    if isSuccess status then
      match Document.parse? body with
      | some d => .success body d
      | none => .failure
    else .failure
  | .unreachable => .failure
  | .breakdown => .breakdown

/-! ### Networks that follow a script -/

/-- A rule of a script: what is replied to URLs that hold certain texts. -/
structure Rule where
  contains : List String
  replies : List Reply
deriving Repr

/-- Whether a rule is for a URL. -/
def Rule.covers (r : Rule) (url : String) : Bool :=
  r.contains.all fun text => Text.occursIn text url

/-- The rules of a script, of which the first that covers a URL counts. -/
abbrev Script := List Rule

/-- The reply to a URL that no rule covers. -/
def notFound : Reply := .answer 404 ""

/-- What a script replies, and what is left of it: the replies of a rule are used up one after the
other, but the last is kept. -/
def Script.next : Script → String → Reply × Script
  | [], _ => (notFound, [])
  | r :: rs, url =>
    if r.covers url then
      match r.replies with
      | [] => (notFound, r :: rs)
      | [reply] => (reply, r :: rs)
      | reply :: rest => (reply, { r with replies := rest } :: rs)
    else
      let (reply, rs) := Script.next rs url
      (reply, r :: rs)

/-- The network that follows a script. -/
def Network.scripted : Network Script := fun url script => Script.next script url

end GraphTalk.Knowledge
