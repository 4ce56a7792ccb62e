import Sluice.Demo.Orders

/-! # The demo program

Settings come from the environment and from an environment file in the working directory, parameters
of the router from variables with a prefix. The program prints what it logs, and reports on the
error output why it ends early.
-/

namespace Sluice.Demo

def readFile (path : String) : IO (Except FileFault Bytes) := do
  try
    let data ← IO.FS.readBinFile path
    return .ok data.toList
  catch
    | .inappropriateType _ _ _ => return .error .directory
    | _ => return .error .missing

def readFiles (path : Option String) : IO Files := do
  match path with
  | none => return fun _ => .error .missing
  | some path =>
      let content ← readFile path
      return fun other => if other = path then content else .error .missing

/-- The variables that the program was started with, where the system tells them. -/
def readVariables : IO Environment := do
  match ← readFile "/proc/self/environ" with
  | .error _ => return Keyed.empty
  | .ok data =>
      let settings := (Text.pieces (· = '\x00') (Bytes.lossyChars data)).map fun cs =>
        (String.ofList (cs.takeWhile (· ≠ '=')), String.ofList ((cs.dropWhile (· ≠ '=')).drop 1))
      return Keyed.ofList (settings.filter fun setting => setting.1 ≠ "")

/-- The path of the properties file that a configuration names. -/
def propertiesPath (env : Environment) : Option String :=
  match Config.ofParams (parameters env).entries with
  | .error _ => none
  | .ok config => config.directory.propertiesFile

/-- Print the lines of a log that the logger lets through. -/
def printLines (env : Environment) (lines : List LogLine) : IO Unit :=
  (logged env lines).forM fun line => IO.println (line.level.name ++ ": " ++ line.text)

end Sluice.Demo

open Sluice Demo in
def main : IO UInt32 := do
  match loadedEnvironment (← readVariables) (← readFiles (some environmentFile)) with
  | none => return UInt32.ofNat Ending.brokenOff.exitCode
  | some env =>
      let files ← readFiles (propertiesPath env)
      let ending := start env files
      printLines env (linesBeforeEnd env ending)
      match ending with
      | .publishing r => printLines env (run r files)
      | _ => pure ()
      match ending.errorLine? with
      | some line => IO.eprintln line
      | none => pure ()
      return UInt32.ofNat ending.exitCode
