import ScriptLexer.CommandLine.Parser

/-!
# The program

The outer layer: it fetches what the command line needs to know of the world, and writes what the
run leaves.
-/

open ScriptLexer

/-- Looks for the file at a path. -/
def fetch (path : Text) : IO (Except OpenFault (List UInt8)) := do
  try
    return .ok (← IO.FS.readBinFile (String.ofList path)).toList
  catch
    | .noFileOrDirectory _ _ _ => return .error .missing
    | .inappropriateType _ 21 _ => return .error .isDirectory
    | .inappropriateType _ 20 _ => return .error .notDirectory
    | .permissionDenied _ number reason => return .error (.notPermitted number.toNat reason)
    | .resourceExhausted _ number reason | .invalidArgument _ number reason =>
      return .error (.system number.toNat reason)
    | .otherError number reason => return .error (.system number.toNat reason)
    | e => return .error (.system 5 e.toString)

/-- The variables of the environment that have a meaning for the options. -/
def fetchEnvironment : IO Options.Environment := do
  let mut environment := []
  for name in Options.variableNames do
    if let some value ← IO.getEnv (String.ofList name) then
      environment := environment ++ [(name, value.toList)]
  return environment

/-- Runs the command line on the arguments of the process. -/
def main (args : List String) : IO UInt32 := do
  let args := args.map String.toList
  let found ← (CommandLine.soughtPaths args).mapM fun path => return (path, ← fetch path)
  let files : FileSystem := fun path => (found.lookup path).getD (.error .missing)
  let output := CommandLine.run .piped files (← fetchEnvironment) (CommandLine.parse files args)
  (← IO.getStdout).putStr (String.ofList output.stdout)
  (← IO.getStderr).putStr (String.ofList output.stderr)
  return output.ending.status.toUInt32
