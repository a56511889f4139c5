import TreeQuery.CommandLine.Run

/-!
# The program

Reads the files that the command line names, runs it and writes what it gives.
-/

namespace TreeQuery.CommandLine

/-- The content of the file at a path, or why there is none. -/
def readPath (path : String) : IO (Except FileProblem String) := do
  try
    match String.fromUTF8? (← IO.FS.readBinFile path) with
    | some content => return .ok content
    | none => return .error .notText
  catch
    | .noFileOrDirectory .. => return .error .missing
    | .inappropriateType .. => return .error .isDirectory
    | problem => return .error (.other (toString problem))

end TreeQuery.CommandLine

open TreeQuery in
def main (args : List String) : IO UInt32 := do
  let contents ← (CommandLine.paths args).mapM fun path =>
    return (path, ← CommandLine.readPath path)
  let files (path : String) : Except FileProblem String :=
    match contents.find? fun found => found.1 == path with
    | some (_, content) => content
    | none => .error .missing
  let exit := CommandLine.run files args
  (← IO.getStdout).putStr exit.output
  (← IO.getStderr).putStr exit.errors
  return UInt32.ofNat exit.code
