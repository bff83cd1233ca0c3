import ObjectGateway.CommandLine

/-!
# The program

Loads a configuration and says what it serves, or why it cannot be served.
-/

open ObjectGateway

/-- The variables of the environment that settings are read from. -/
def readEnvironment : IO Environment := do
  let names := CommandLine.variableName :: ServerConfig.variables
  let values ← names.mapM fun name => do return (← IO.getEnv name).map (name, ·)
  return values.filterMap id

/-- Load the configuration at a path. -/
def loadConfig (env : Environment) (path : String) : IO (Answer Config) := do
  try
    let content ← IO.FS.readBinFile path
    let files := LocalFiles.ofList [(CommandLine.usualPath, content.toList)]
    return Config.load ⟨env, files⟩ CommandLine.usualPath
  catch e =>
    return .error (.config ("cannot read " ++ path ++ ": " ++ toString e))

/-- Check a configuration. -/
def main (args : List String) : IO UInt32 := do
  match CommandLine.ofArguments args with
  | .error reason =>
    IO.eprintln ("error: " ++ reason)
    return 2
  | .ok command =>
    let env ← readEnvironment
    match ← loadConfig env (command.path env) with
    | .ok config =>
      IO.println config.summary
      return 0
    | .error f =>
      IO.eprintln ("Error: " ++ f.message)
      return 1
