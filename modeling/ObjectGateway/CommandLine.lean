import ObjectGateway.Config.Validate

/-!
# The command line

Which configuration is loaded: the one that an argument names, or else the one that the environment
names, or else the one of the usual name.
-/

namespace ObjectGateway

/-- What the arguments ask for. -/
structure CommandLine where
  /-- The path of the configuration, if one is given. -/
  config : Option String
  deriving Repr, DecidableEq

namespace CommandLine

/-- The path of the configuration that is loaded when none is named. -/
def usualPath : String := "config.yaml"

/-- The variable that names the configuration. -/
def variableName : String := "S3GATE_CONFIG"

/-- Read the arguments.  An unknown argument is refused, and so is a second path. -/
def ofArguments : List String → Except String CommandLine
  | [] => .ok ⟨none⟩
  | ["--config"] => .error "a value is required for --config"
  | "--config" :: path :: rest => withPath path rest
  | arg :: rest =>
    match Text.stripStart? "--config=".toList arg.toList with
    | some path => withPath (String.ofList path) rest
    | none => .error ("unexpected argument " ++ arg)
where
  /-- The arguments after the path. -/
  withPath (path : String) : List String → Except String CommandLine
    | [] => .ok ⟨some path⟩
    | arg :: _ =>
      if arg.startsWith "--config" then .error "--config cannot be used multiple times"
      else .error ("unexpected argument " ++ arg)

/-- The path of the configuration. -/
def path (c : CommandLine) (env : Environment) : String :=
  (c.config <|> env.lookup variableName).getD usualPath

end CommandLine

/-- A line that says what a configuration serves. -/
def Config.summary (c : Config) : String :=
  "listen " ++ c.server.listen ++ ", targets: " ++
    String.intercalate ", " (c.targets.map (·.name))

end ObjectGateway
