import ObjectGateway.Config.Basic
import ObjectGateway.LocalFiles

/-!
# Secrets and settings from outside

A secret is looked up when it is needed.  A value in place wins over the environment, and the
environment over a file; what is named but not there is a failure and no reason to look further.
The settings of the server can be replaced from the environment as well.
-/

namespace ObjectGateway

/-- What lies outside of a configuration: the environment and the local files. -/
structure Surroundings where
  env : Environment
  files : LocalFiles

/-- The text of a secret. -/
def Secret.resolve (s : Secret) (w : Surroundings) : Answer String :=
  match s.value with
  | some v => .ok v
  | none =>
    match s.env with
    | some name =>
      match w.env.lookup name with
      | some v =>
        if v.isEmpty then
          .error (.config ("error loading credentials, environment variable " ++ name ++
            " is empty"))
        else .ok v
      | none =>
        .error (.config ("error loading credentials, environment variable " ++ name ++ " is empty"))
    | none =>
      match s.path with
      | some path =>
        match w.files.readText path with
        | .ok raw => .ok (Text.trimEndWhile Text.isLineBreak raw)
        | .error e =>
          .error (.config ("error loading credentials from " ++ path ++ ": " ++ e.message))
      | none => .error (.config "credential needs one of path, env, or value")

/-- A number of decimal digits, with or without a plus sign, below a bound. -/
def readCount? (bound : Nat) (s : String) : Option Nat :=
  let ds := match s.toList with
    | '+' :: rest => rest
    | cs => cs
  if ds.isEmpty || !ds.all Char.isDigit then none
  else
    let n := ds.foldl (fun n c => n * 10 + (c.toNat - '0'.toNat)) 0
    if n < bound then some n else none

/-- The variables that settings are read from. -/
def ServerConfig.variables : List String :=
  ["GATEWAY_LISTEN", "LOG_LEVEL", "LOG_FORMAT", "WEBHOOK_WORKERS", "WEBHOOK_QUEUE_CAPACITY"]

/-- Replace settings by those of the environment.  A count is at least one; what is no count is
left out. -/
def ServerConfig.withEnvironment (s : ServerConfig) (env : Environment) : ServerConfig :=
  let count (name : String) (n : Nat) : Nat :=
    ((env.lookup name).bind (readCount? Timespan.wordBound)).elim n (Nat.max · 1)
  { listen := (env.lookup "GATEWAY_LISTEN").getD s.listen
    logLevel := (env.lookup "LOG_LEVEL").getD s.logLevel
    logFormat := (env.lookup "LOG_FORMAT").getD s.logFormat
    webhookWorkers := count "WEBHOOK_WORKERS" s.webhookWorkers
    webhookQueueCapacity := count "WEBHOOK_QUEUE_CAPACITY" s.webhookQueueCapacity }

end ObjectGateway
