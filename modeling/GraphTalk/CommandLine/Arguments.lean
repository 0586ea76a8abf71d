import GraphTalk.Text.Blank
import GraphTalk.Text.Digit

/-!
# Arguments

The arguments of the command line. An option is written with its name, with the start of its name
if no other option has it, or with its letter. The value of an option is the next argument, or
stands behind an equals sign, or directly behind the letter.
-/

namespace GraphTalk.CommandLine

/-- The options. -/
inductive Flag where
  | help
  | manifest
  | input
  | output
  | dropped
  | cache
  | typeIndex
  | verbose
deriving DecidableEq, Repr

/-- The names of the options. -/
def Flag.names : List (String × Flag) :=
  [("-h", .help), ("--help", .help), ("--manifest", .manifest), ("-i", .input), ("--input", .input),
    ("-o", .output), ("--output", .output), ("--dropped", .dropped), ("--cache", .cache),
    ("--type-index", .typeIndex), ("--verbose", .verbose)]

/-- Whether an option has a value. -/
def Flag.hasValue : Flag → Bool
  | .help => false
  | .verbose => false
  | _ => true

/-! ### Words -/

/-- What an argument looks like. -/
inductive Word where
  /-- A value, or an argument that no option has. -/
  | plain (text : String)
  /-- An option alone. -/
  | option (flag : Flag)
  /-- An option with its value behind an equals sign. -/
  | assigned (flag : Flag) (value : String)
  /-- The letter of an option with more behind it. -/
  | attached (flag : Flag) (rest : String)
  /-- The start of the names of several options. -/
  | ambiguous
  /-- An option that there is not, or the mark behind which there are no options. -/
  | unknown
deriving DecidableEq, Repr

/-- An argument cut at its first equals sign. -/
def cutAssignment (cs : List Char) : List Char × Option (List Char) :=
  match cs.dropWhile (· != '=') with
  | [] => (cs, none)
  | _ :: value => (cs.takeWhile (· != '='), some value)

/-- The options whose names start with a text. -/
def flagsFrom (start : String) : List Flag :=
  (Flag.names.filter fun n => (Text.dropStart? start n.1).isSome).map Prod.snd

/-- Whether characters are digits of any script. -/
def areDigits (cs : List Char) : Bool := cs.all fun c => (Text.digitValue? c).isSome

/-- Whether an argument is a negative number, which is no option. -/
def isNegativeNumber : List Char → Bool
  | '-' :: cs =>
    let whole := cs.takeWhile (· != '.')
    match cs.dropWhile (· != '.') with
    | [] => !whole.isEmpty && areDigits whole
    | _ :: fraction => areDigits whole && !fraction.isEmpty && areDigits fraction
  | _ => false

/-- An argument that starts like an option and is the name of none. -/
def nameless (cs : List Char) : Word :=
  if isNegativeNumber cs || cs.contains ' ' then .plain (String.ofList cs) else .unknown

/-- An argument that starts with two dashes and is the name of no option. -/
def abbreviated (cs : List Char) : Word :=
  let (start, value) := cutAssignment cs
  match flagsFrom (String.ofList start), value with
  | [], _ => nameless cs
  | [flag], none => .option flag
  | [flag], some v => .assigned flag (String.ofList v)
  | _, _ => .ambiguous

/-- An argument that starts with one dash and is the name of no option. -/
def lettered (cs : List Char) : Word :=
  match Flag.names.lookup (String.ofList (cs.take 2)) with
  | some flag => .attached flag (String.ofList (cs.drop 2))
  | none => nameless cs

/-- An argument with a dash at its start and more behind it. -/
def dashed (cs : List Char) : Word :=
  match Flag.names.lookup (String.ofList cs) with
  | some flag => .option flag
  | none =>
    let (name, value) := cutAssignment cs
    match Flag.names.lookup (String.ofList name), value with
    | some flag, some v => .assigned flag (String.ofList v)
    | _, _ => if cs.take 2 == ['-', '-'] then abbreviated cs else lettered cs

/-- What an argument looks like. -/
def Word.ofArgument (argument : String) : Word :=
  match argument.toList with
  | '-' :: c :: cs => dashed ('-' :: c :: cs)
  | _ => .plain argument

/-- What arguments look like. Behind two dashes alone there are no options. -/
def Word.ofArguments : List String → List Word
  | [] => []
  | a :: as =>
    if a == "--" then .unknown :: as.map .plain else Word.ofArgument a :: Word.ofArguments as

/-! ### Reading -/

/-- What the arguments say. -/
structure Arguments where
  manifest : Option String := none
  input : Option String := none
  output : Option String := none
  dropped : Option String := none
  cache : Option String := none
  typeIndex : Option String := none
  verbose : Bool := false
  /-- Whether there are arguments that nothing is known of. -/
  surplus : Bool := false
deriving Repr

/-- Why there is nothing to do. -/
inductive Exit where
  /-- Help was asked for. -/
  | help
  /-- The arguments are not in order. -/
  | usage
deriving DecidableEq, Repr

/-- The code that the command ends with. -/
def Exit.code : Exit → Nat
  | .help => 0
  | .usage => 2

/-- Sets the value of an option. -/
def Arguments.set (a : Arguments) (value : String) : Flag → Arguments
  | .manifest => { a with manifest := value }
  | .input => { a with input := value }
  | .output => { a with output := value }
  | .dropped => { a with dropped := value }
  | .cache => { a with cache := value }
  | .typeIndex => { a with typeIndex := value }
  | .help => a
  | .verbose => { a with verbose := true }

/-- Whether letters behind the one for help are letters of options as well; the last may have its
value in the next argument. -/
def lettersFit (valueFollows : Bool) : List Char → Bool
  | [] => true
  | 'h' :: cs => lettersFit valueFollows cs
  | c :: cs => (c == 'i' || c == 'o') && (!cs.isEmpty || valueFollows)

/-- Whether a value comes next. -/
def startsPlain : List Word → Bool
  | .plain _ :: _ => true
  | _ => false

/-- Reads arguments one after the other. -/
def Arguments.read (a : Arguments) : List Word → Except Exit Arguments
  | [] => .ok a
  | .plain _ :: ws => Arguments.read { a with surplus := true } ws
  | .unknown :: ws => Arguments.read { a with surplus := true } ws
  | .ambiguous :: _ => .error .usage
  | .assigned flag value :: ws =>
    if flag.hasValue then Arguments.read (a.set value flag) ws else .error .usage
  | .attached flag rest :: ws =>
    if flag.hasValue then Arguments.read (a.set rest flag) ws
    else if lettersFit (startsPlain ws) rest.toList then .error .help else .error .usage
  | .option .help :: _ => .error .help
  | .option .verbose :: ws => Arguments.read (a.set "" .verbose) ws
  | .option flag :: .plain value :: ws => Arguments.read (a.set value flag) ws
  | .option _ :: _ => .error .usage

/-- A run of the command. -/
structure Command where
  manifest : String
  input : String
  output : String
  dropped : Option String
  typeIndex : Option String
deriving Repr

/-- A path that is given and not empty. -/
def path? : Option String → Option String
  | some "" => none
  | p => p

/-- The run that the arguments ask for. -/
def Command.parse (arguments : List String) : Except Exit Command :=
  match Arguments.read {} (Word.ofArguments arguments) with
  | .error e => .error e
  | .ok a => match a.manifest, a.input, a.output, a.surplus with
    | some manifest, some input, some output, false =>
      .ok { manifest, input, output, dropped := path? a.dropped, typeIndex := path? a.typeIndex }
    | _, _, _, _ => .error .usage

end GraphTalk.CommandLine
