/-!
# Counters

What the gateway counts, as the list of everything that was counted.  The value of a counter is how
often its increment occurs, and the exposition shows each counter that has occurred.
-/

namespace ObjectGateway

/-- Something that was counted. -/
inductive Count
  /-- A store was called. -/
  | storeCall (target bucket operation : String)
  /-- A hook answered that all is well. -/
  | hookSucceeded (target action : String)
  /-- A hook could not be reached or answered with a failure. -/
  | hookFailed (target action : String)
  /-- A request was answered. -/
  | answered (method : String) (status : Nat)
  deriving Repr, DecidableEq

/-- The counters, as everything that was counted. -/
abbrev Metrics := List Count

/-- The families of counters. -/
inductive CountFamily
  | hookFailed
  | answered
  | storeCall
  | hookSucceeded
  deriving Repr, DecidableEq

namespace CountFamily

/-- The families in the order of their names. -/
def all : List CountFamily := [hookFailed, answered, storeCall, hookSucceeded]

/-- The name of a family. -/
def name : CountFamily → String
  | hookFailed => "s3gate_failed_webhooks_total"
  | answered => "s3gate_http_requests_total"
  | storeCall => "s3gate_s3_operations_total"
  | hookSucceeded => "s3gate_succeed_webhooks_total"

/-- What a family counts. -/
def help : CountFamily → String
  | hookFailed => "Number of failed webhooks"
  | answered => "Number of answered HTTP requests"
  | storeCall => "Number of S3 operations"
  | hookSucceeded => "Number of succeeded webhooks"

end CountFamily

namespace Count

/-- The family of a counter. -/
def family : Count → CountFamily
  | storeCall .. => .storeCall
  | hookSucceeded .. => .hookSucceeded
  | hookFailed .. => .hookFailed
  | answered .. => .answered

/-- The labels of a counter in the order of their names. -/
def labels : Count → List (String × String)
  | storeCall target bucket operation =>
    [("bucket_name", bucket), ("operation", operation), ("target_name", target)]
  | hookSucceeded target action => [("action", action), ("target_name", target)]
  | hookFailed target action => [("action", action), ("target_name", target)]
  | answered method status => [("method", method), ("status_code", toString status)]

/-- Whether texts do not come after others, by the first ones that differ. -/
def textsLe : List String → List String → Bool
  | [], _ => true
  | _ :: _, [] => false
  | s :: ss, t :: ts => if s = t then textsLe ss ts else decide (s < t)

/-- Whether the label values of one counter do not come after those of another. -/
def le (a b : Count) : Bool :=
  textsLe (a.labels.map (·.2)) (b.labels.map (·.2))

/-- A label value between its quotes. -/
def escape (s : String) : String :=
  String.ofList <| s.toList.flatMap fun c =>
    if c = '\\' then ['\\', '\\']
    else if c = '"' then ['\\', '"']
    else if c = '\n' then ['\\', 'n']
    else [c]

/-- The labels of a counter between braces. -/
def labelText (c : Count) : String :=
  "\x7b" ++ String.intercalate "," (c.labels.map fun (k, v) => k ++ "=\"" ++ escape v ++ "\"") ++
    "\x7d"

end Count

namespace Metrics

/-- The counters of a family that have occurred, in the order of their labels. -/
def samples (m : Metrics) (f : CountFamily) : List Count :=
  ((m.filter fun c => c.family == f).eraseDups).mergeSort Count.le

/-- The lines of a family. -/
def familyText (m : Metrics) (f : CountFamily) : String :=
  match m.samples f with
  | [] => ""
  | counts =>
    "# HELP " ++ f.name ++ " " ++ f.help ++ "\n# TYPE " ++ f.name ++ " counter\n" ++
      String.join (counts.map fun c =>
        f.name ++ c.labelText ++ " " ++ toString (m.count c) ++ "\n")

/-- All counters as text. -/
def exposition (m : Metrics) : String :=
  String.join (CountFamily.all.map m.familyText)

end Metrics

end ObjectGateway
