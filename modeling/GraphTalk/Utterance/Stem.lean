import GraphTalk.Text.Case

/-!
# Stems of words

Suffix stripping for English: a word is brought to a stem by five steps, each of which replaces a
suffix if what stands before it is long enough. Length is counted in runs of vowels followed by
consonants.
-/

namespace GraphTalk.Utterance.Stem

/-- A word, as characters. -/
abbrev Word := List Char

/-- The vowels that are vowels everywhere. -/
def isPlainVowel (c : Char) : Bool := "aeiou".toList.contains c

/-- For each character, whether it is a consonant. A `y` is one at the start and after a vowel. -/
def consonants : Word → List Bool := go none
where
  /-- The marks of the rest; `before` is the mark of the character before it. -/
  go (before : Option Bool) : Word → List Bool
    | [] => []
    | c :: cs =>
      let mark :=
        if isPlainVowel c then false
        else if c == 'y' then match before with
          | none => true
          | some consonant => !consonant
        else true
      mark :: go (some mark) cs

/-- How often a vowel is followed by a consonant. -/
def measureMarks : List Bool → Nat
  | false :: true :: rest => measureMarks (true :: rest) + 1
  | _ :: rest => measureMarks rest
  | [] => 0

/-- The length of a word in runs of vowels followed by consonants. -/
def measure (w : Word) : Nat := measureMarks (consonants w)

/-- Whether a word has a vowel. -/
def hasVowel (w : Word) : Bool := (consonants w).contains false

/-- Whether a word ends in the same consonant twice. -/
def endsDouble (w : Word) : Bool :=
  match w.reverse, (consonants w).reverse with
  | a :: b :: _, true :: _ => a == b
  | _, _ => false

/-- Whether a word ends in consonant, vowel, consonant, of which the last is not `w`, `x` or `y`; or
is only a vowel and a consonant. -/
def endsShort (w : Word) : Bool :=
  match w.reverse, (consonants w).reverse with
  | _, [true, false] => true
  | c :: _, true :: false :: true :: _ => c != 'w' && c != 'x' && c != 'y'
  | _, _ => false

/-- The part before a suffix. -/
def withoutSuffix? (suffix : String) (w : Word) : Option Word :=
  if suffix.toList.isSuffixOf w then some (w.take (w.length - suffix.length)) else none

/-- A rule: a suffix, what it is replaced by, and when. -/
structure Rule where
  suffix : String
  replacement : String
  /-- Whether the part before the suffix allows it. -/
  allowed : Word → Bool := fun _ => true

/-- The first rule whose suffix fits decides: the word is changed if the rule allows it. -/
def applyRules : List Rule → Word → Word
  | [], w => w
  | r :: rs, w => match withoutSuffix? r.suffix w with
    | some stem => if r.allowed stem then stem ++ r.replacement.toList else w
    | none => applyRules rs w

/-- A stem of positive measure. -/
def isPositive (w : Word) : Bool := measure w > 0

/-- Plurals. -/
def step1a (w : Word) : Word :=
  if w.length = 4 && (withoutSuffix? "ies" w).isSome then w.take 1 ++ "ie".toList
  else applyRules [⟨"sses", "ss", fun _ => true⟩, ⟨"ies", "i", fun _ => true⟩,
    ⟨"ss", "ss", fun _ => true⟩, ⟨"s", "", fun _ => true⟩] w

/-- Mends a stem whose `ed` or `ing` was taken off. -/
def mend (w : Word) : Word :=
  if (withoutSuffix? "at" w).isSome || (withoutSuffix? "bl" w).isSome ||
      (withoutSuffix? "iz" w).isSome then w ++ ['e']
  else if endsDouble w then
    match w.getLast? with
    | some c => if c == 'l' || c == 's' || c == 'z' then w else w.dropLast
    | none => w
  else if measure w = 1 && endsShort w then w ++ ['e']
  else w

/-- Past tense and present participle. -/
def step1b (w : Word) : Word :=
  match withoutSuffix? "ied" w with
  | some stem => if w.length = 4 then stem ++ "ie".toList else stem ++ ['i']
  | none => match withoutSuffix? "eed" w with
    | some stem => if isPositive stem then stem ++ "ee".toList else w
    | none => match (["ed", "ing"].filterMap fun s => withoutSuffix? s w).find? hasVowel with
      | some stem => mend stem
      | none => w

/-- A final `y`. -/
def step1c : Word → Word :=
  applyRules [⟨"y", "i", fun stem =>
    stem.length > 1 && (consonants stem).getLast? == some true⟩]

/-- Double suffixes. -/
def step2Rules : List Rule :=
  ([("ational", "ate"), ("tional", "tion"), ("enci", "ence"), ("anci", "ance"), ("izer", "ize"),
    ("bli", "ble"), ("alli", "al"), ("entli", "ent"), ("eli", "e"), ("ousli", "ous"),
    ("ization", "ize"), ("ation", "ate"), ("ator", "ate"), ("alism", "al"), ("iveness", "ive"),
    ("fulness", "ful"), ("ousness", "ous"), ("aliti", "al"), ("iviti", "ive"),
    ("biliti", "ble"), ("fulli", "ful")].map fun (s, r) => ⟨s, r, isPositive⟩) ++
  -- the letter before the suffix counts here
  [⟨"logi", "log", fun stem => isPositive (stem ++ ['l'])⟩]

/-- Double suffixes, when `alli` is taken apart first, as often as it comes. -/
def step2 : Nat → Word → Word
  | 0, w => applyRules step2Rules w
  | fuel + 1, w => match withoutSuffix? "alli" w with
    | some stem =>
      if isPositive stem then step2 fuel (stem ++ "al".toList) else applyRules step2Rules w
    | none => applyRules step2Rules w

/-- Adjectives and nouns made from other words. -/
def step3 : Word → Word :=
  applyRules ([("icate", "ic"), ("ative", ""), ("alize", "al"), ("iciti", "ic"), ("ical", "ic"),
    ("ful", ""), ("ness", "")].map fun (s, r) => ⟨s, r, isPositive⟩)

/-- Single suffixes, behind longer stems. -/
def step4 : Word → Word :=
  applyRules (["al", "ance", "ence", "er", "ic", "able", "ible", "ant", "ement", "ment", "ent",
      "ion", "ou", "ism", "ate", "iti", "ous", "ive", "ize"].map fun s =>
    ⟨s, "", fun stem => measure stem > 1 &&
      (s != "ion" || stem.getLast? == some 's' || stem.getLast? == some 't')⟩)

/-- A final `e`. -/
def step5a (w : Word) : Word :=
  match withoutSuffix? "e" w with
  | some stem =>
    if measure stem > 1 || (measure stem = 1 && !endsShort stem) then stem else w
  | none => w

/-- A final double `l`. -/
def step5b : Word → Word :=
  applyRules [⟨"ll", "l", fun stem => measure (stem ++ ['l']) > 1⟩]

/-- Words whose stems follow no rule. -/
def irregular : List (String × String) :=
  [("sky", "sky"), ("skies", "sky"), ("dying", "die"), ("lying", "lie"), ("tying", "tie"),
   ("news", "news"), ("innings", "inning"), ("inning", "inning"), ("outings", "outing"),
   ("outing", "outing"), ("cannings", "canning"), ("canning", "canning"), ("howe", "howe"),
   ("proceed", "proceed"), ("exceed", "exceed"), ("succeed", "succeed")]

/-- The five steps one after the other. -/
def steps (w : Word) : Word :=
  let w := step1c (step1b (step1a w))
  step5b (step5a (step4 (step3 (step2 w.length w))))

end Stem

/-- The stem of a word. -/
def stem (s : String) : String :=
  let word := Text.lower s
  match Stem.irregular.lookup word with
  | some w => w
  | none => if word.length ≤ 2 then word else String.ofList (Stem.steps word.toList)

end GraphTalk.Utterance
