import GraphTalk.Text.Accent
import GraphTalk.Utterance.Stem

/-!
# Similarity of texts

Two texts are compared by the stems of their words, without the words that carry no meaning. The
score is the harmonic mean of precision and recall, or the share of stems they have in common.

Scores are computed in any type with the arithmetic of `Score`: doubles when the program runs,
rational numbers where they are reasoned about.
-/

namespace GraphTalk.Utterance

/-- The arithmetic that scores need. -/
class Score (α : Type) where
  ofNat : Nat → α
  add : α → α → α
  mul : α → α → α
  div : α → α → α
  /-- Whether a score is at most another. -/
  le : α → α → Bool
  /-- Whether a score is below another. -/
  lt : α → α → Bool

/-- Scores as doubles. -/
instance : Score Float where
  ofNat := Float.ofNat
  add := (· + ·)
  mul := (· * ·)
  div := (· / ·)
  le a b := a ≤ b
  lt a b := a < b

/-- Scores as rational numbers. -/
instance : Score Rat where
  ofNat n := n
  add := (· + ·)
  mul := (· * ·)
  div := (· / ·)
  le a b := a ≤ b
  lt a b := a < b

/-- How similarity is measured. -/
inductive Mode where
  /-- The harmonic mean of precision and recall. -/
  | f1
  /-- The share of common stems. -/
  | jaccard
deriving DecidableEq, Repr

/-- The measure that a word stands for. -/
def Mode.ofName? : String → Option Mode
  | "f1" => some .f1
  | "jaccard" => some .jaccard
  | _ => none

/-! ### Stems of a text -/

/-- The words that carry no meaning. -/
def stopwords : List String := Text.words
  "a about above after again against all am an and any are as at be because been before being
   below between both but by can could did do does doing down during each few for from further
   had has have having he her here hers herself him himself his how i if in into is it its
   itself just me more most my myself no nor not now of off on once only or other our ours
   ourselves out over own same she should so some such than that the their theirs them
   themselves then there these they this those through to too under until up very was we were
   what when where which while who whom why will with would you your yours yourself yourselves"

/-- The stems of the words of a text that carry meaning, each once. -/
def stems (s : String) : List String :=
  let ws := (Text.words (Text.lower s)).filter fun w => !stopwords.contains w
  (ws.map fun w => stem (Text.removeAccents w)).eraseDups

/-! ### Scores -/

section

variable {α : Type} [Score α]

/-- The score of two sets by their sizes and the size of what they share. The harmonic mean is zero
if precision or recall is, which is so exactly if nothing is shared. -/
def scoreOf (mode : Mode) (left right overlap : Nat) : α :=
  let zero : α := Score.ofNat 0
  if left = 0 ∨ right = 0 then zero
  else match mode with
    | .jaccard => Score.div (Score.ofNat overlap) (Score.ofNat (left + right - overlap))
    | .f1 =>
      if overlap = 0 then zero
      else
        let precision : α := Score.div (Score.ofNat overlap) (Score.ofNat left)
        let coverage : α := Score.div (Score.ofNat overlap) (Score.ofNat right)
        Score.div (Score.mul (Score.mul (Score.ofNat 2) precision) coverage)
          (Score.add precision coverage)

/-- The similarity of two texts. -/
def similarity (mode : Mode) (a b : String) : α :=
  let left := stems a
  let right := stems b
  scoreOf mode left.length right.length (left.filter right.contains).length

/-- The better of the best candidate so far and another; the earlier one wins a tie. As no score is
negative, to have no candidate yet is to have a negative score to beat. -/
def better (mode : Mode) (target : String) (threshold : α) (best : Option (String × α))
    (candidate : String) : Option (String × α) :=
  let score : α := similarity mode target candidate
  if Score.le score threshold then best
  else match best with
    | none => some (candidate, score)
    | some (c, s) => if Score.lt s score then some (candidate, score) else some (c, s)

/-- The first candidate of the greatest similarity to a target, if that is above a threshold. -/
def closestAbove (mode : Mode) (target : String) (candidates : List String) (threshold : α) :
    Option String :=
  (candidates.foldl (better mode target threshold) none).map (·.1)

/-- The closest candidate by a measure that is given by its name. The name is looked at only when
there is a candidate; a name of no measure is handed back. -/
def closestByName (name target : String) (candidates : List String) (threshold : α) :
    Except String (Option String) :=
  if candidates.isEmpty then .ok none
  else match Mode.ofName? name with
    | some mode => .ok (closestAbove mode target candidates threshold)
    | none => .error name

end

/-- The candidate that is closest to a target, if any has anything in common with it. -/
def closest (mode : Mode) (target : String) (candidates : List String) : Option String :=
  closestAbove mode target candidates (0.0 : Float)

end GraphTalk.Utterance
