import TrustedPlatform.CommandLine.Run
import TrustedPlatform.Random

/-!
# The command line

Reads the arguments, the configuration file they or the environment name, and a seed; prints what
the task prints. Exit code 0 is success, 1 a task that failed, 2 arguments that ask for nothing.
-/

namespace TrustedPlatform.CommandLine

/-- How to call the program. -/
def usage : String :=
  "Usage: [-c PATH] trial [--auth-value] [--pcr N]...\n"
    ++ "       [-c PATH] authorize [--policy-ref TEXT]\n"
    ++ "       [-c PATH] exec COMMAND"

/-- The environment variable that names the configuration file. -/
def configVariable : String := "TPM2_ENGINE_CONFIG"

/-- Runs the task of an invocation. -/
def Invocation.run (invocation : Invocation) : IO UInt32 := do
  let path? ←
    match invocation.configPath with
    | some path => pure (some path)
    | none => IO.getEnv configVariable
  if path? = some "" then
    IO.eprintln usage
    return 2
  let configFile ←
    match path? with
    | some path => do pure (some (← IO.FS.readBinFile path).data.toList)
    | none => pure none
  let seed := (← IO.getRandomBytes 32).data.toList
  match invocation.task.output (Crypto.standard (Random.ofSeed seed)) configFile with
  | .ok line =>
    IO.println line
    return 0
  | .error failure =>
    for line in failure.report do
      IO.eprintln line
    return 1

end TrustedPlatform.CommandLine

open TrustedPlatform

/-- Runs the program. -/
def main (arguments : List String) : IO UInt32 := do
  match CommandLine.invocation arguments with
  | .ok invocation =>
    try invocation.run
    catch error =>
      IO.eprintln ("Error: " ++ toString error)
      return 1
  | .error .usage =>
    IO.eprintln CommandLine.usage
    return 2
  | .error .help =>
    IO.println CommandLine.usage
    return 0
  | .error .version =>
    IO.println "0.1.0"
    return 0
