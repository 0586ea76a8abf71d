import GraphTalk.CommandLine.Run

/-!
# The command

Converts the questions of a dataset to programs. Only files are at hand: nothing is looked up that
the type index does not hold.
-/

namespace GraphTalk.CommandLine

/-- How the command is used. -/
def usage : String :=
  "usage: graphtalk --manifest FILE --input FILE --output FILE [--dropped FILE] [--cache FILE] " ++
    "[--type-index FILE] [--verbose]"

/-- The text of a file that can be read. -/
def readFile? (path : String) : IO (Option String) := do
  try return some (← IO.FS.readFile path)
  catch _ => return none

/-- The texts of the files that a run may read. -/
def readFiles (paths : List String) : IO Files := do
  let texts ← paths.mapM fun path => return (path, ← readFile? path)
  return fun path => (texts.lookup path).join

/-- Writes and prints what a run came to. -/
def Report.deliver (r : Report) : IO UInt32 := do
  for (path, text) in r.written do IO.FS.writeFile path text
  IO.print r.summary
  if let some reason := r.error then IO.eprintln ("error: " ++ reason.message)
  return r.code.toUInt32

/-- Runs the command without a network. -/
def execute (c : Command) : IO UInt32 := do
  let files ← readFiles ([c.manifest, c.input] ++ c.typeIndex.toList)
  match ((run .offline files c).run { network := () }).1 with
  | .ok report => report.deliver
  | .error _ =>
    IO.eprintln "error: a document has an unexpected shape"
    return 1

end GraphTalk.CommandLine

open GraphTalk.CommandLine in
/-- The command. -/
def main (arguments : List String) : IO UInt32 := do
  match Command.parse arguments with
  | .ok c => execute c
  | .error .help =>
    IO.println usage
    return 0
  | .error .usage =>
    IO.eprintln usage
    return 2
