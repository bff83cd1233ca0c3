import ObjectGateway.Gateway.Record
import ObjectGateway.Proofs.Conversation

/-!
# Conversations of a gateway

What is looked at in a conversation of a gateway: the calls of the store with their replies, the
events that hooks are told of, the files, and the answers.  A file that could not be sent is no answer.

The lemmas on the parts of a flow say which conversations each of them can have; with those on
sequences they make up the conversations of whole requests.
-/

namespace ObjectGateway

/-- Whether an outcome gives what was asked for.  The others are failures and redirects. -/
def Outcome.delivers : Outcome → Bool
  | .listing _ | .stored _ | .removed _ => true
  | _ => false

/-- Whether an answer tells of a change in the store. -/
def Recorded.tellsChange : Recorded → Bool
  | .outcome (.stored _) | .outcome (.removed _) => true
  | _ => false

theorem Recorded.tellsChange_of_not_delivers {o : Outcome} (h : o.delivers = false) :
    (Recorded.outcome o).tellsChange = false := by
  cases o with
  | stored echo => cases h
  | removed key => cases h
  | _ => rfl

namespace Exchange

/-- A call of the store. -/
abbrev called (c : StoreCall) (reply : c.Reply) : Exchange GatewayInterface := ⟨.store c, reply⟩

/-- An event that hooks are told of. -/
abbrev told (event : HookEvent) : Exchange GatewayInterface := ⟨.dispatch event, ()⟩

/-- A file, with what became of sending it. -/
abbrev sent (file : FileAnswer) (reply : Answer Unit) : Exchange GatewayInterface :=
  ⟨.sendFile file, reply⟩

/-- An answer that cannot fail. -/
abbrev answered (outcome : Outcome) : Exchange GatewayInterface := ⟨.respond outcome, ()⟩

/-- The call of the store in an exchange. -/
@[simp] def storeCall? : Exchange GatewayInterface → Option (Exchange StoreInterface)
  | ⟨.store c, reply⟩ => some ⟨c, reply⟩
  | _ => none

/-- The call in an exchange, if it changes the store. -/
@[simp] def change? : Exchange GatewayInterface → Option StoreCall
  | ⟨.store (.put r), _⟩ => some (.put r)
  | ⟨.store (.delete key), _⟩ => some (.delete key)
  | _ => none

/-- The event in an exchange. -/
@[simp] def event? : Exchange GatewayInterface → Option HookEvent
  | ⟨.dispatch event, _⟩ => some event
  | _ => none

/-- The file in an exchange, sent or not. -/
@[simp] def file? : Exchange GatewayInterface → Option FileAnswer
  | ⟨.sendFile file, _⟩ => some file
  | _ => none

/-- The answer in an exchange, as it is recorded. -/
@[simp] def answer? : Exchange GatewayInterface → Option Recorded
  | ⟨.sendFile file, reply⟩ =>
    match (reply : Answer Unit) with
    | .ok () =>
      some (.file (file.body.bind fun body => body.collect.toOption) file.metadata.contentType)
    | .error _ => none
  | ⟨.respond outcome, _⟩ => some (.outcome outcome)
  | _ => none

end Exchange

namespace Conversation

/-- The calls of the store. -/
def storeCalls (t : Conversation GatewayInterface) : Conversation StoreInterface :=
  t.filterMap Exchange.storeCall?

/-- The calls that change the store. -/
def changes (t : Conversation GatewayInterface) : List StoreCall := t.filterMap Exchange.change?

/-- The events that hooks are told of. -/
def events (t : Conversation GatewayInterface) : List HookEvent := t.filterMap Exchange.event?

/-- The files that are sent, or that could not be. -/
def files (t : Conversation GatewayInterface) : List FileAnswer := t.filterMap Exchange.file?

/-- All answers, as they are recorded. -/
def answers (t : Conversation GatewayInterface) : List Recorded := t.filterMap Exchange.answer?

variable (t u : Conversation GatewayInterface)

@[simp] theorem storeCalls_nil : storeCalls [] = [] := rfl

@[simp] theorem storeCalls_called (c : StoreCall) (reply : c.Reply) :
    storeCalls (Exchange.called c reply :: t) = ⟨c, reply⟩ :: storeCalls t := rfl

@[simp] theorem storeCalls_told (event : HookEvent) :
    storeCalls (Exchange.told event :: t) = storeCalls t := rfl

@[simp] theorem storeCalls_sent (file : FileAnswer) (reply : Answer Unit) :
    storeCalls (Exchange.sent file reply :: t) = storeCalls t := rfl

@[simp] theorem storeCalls_answered (outcome : Outcome) :
    storeCalls (Exchange.answered outcome :: t) = storeCalls t := rfl

theorem storeCalls_append : storeCalls (t ++ u) = storeCalls t ++ storeCalls u :=
  List.filterMap_append

theorem changes_append : changes (t ++ u) = changes t ++ changes u :=
  List.filterMap_append

theorem events_append : events (t ++ u) = events t ++ events u :=
  List.filterMap_append

theorem answers_append : answers (t ++ u) = answers t ++ answers u :=
  List.filterMap_append

/-- The calls of the store are those in the conversation. -/
theorem mem_storeCalls_iff {t : Conversation GatewayInterface} {c : StoreCall} {reply : c.Reply} :
    ⟨c, reply⟩ ∈ storeCalls t ↔ Exchange.called c reply ∈ t := by
  rw [storeCalls, List.mem_filterMap]
  constructor
  · rintro ⟨⟨op, x⟩, hmem, hsome⟩
    cases op with
    | store c' =>
      obtain ⟨rfl, hx⟩ := by simpa using hsome
      obtain rfl := eq_of_heq hx
      exact hmem
    | dispatch event => cases hsome
    | sendFile file => cases hsome
    | respond outcome => cases hsome
  · intro hmem
    exact ⟨_, hmem, rfl⟩

end Conversation

namespace GatewayFlow

open Exchange (called told sent answered)

variable {t : Conversation GatewayInterface} {key : String} {c : GetConditions}

@[simp] theorem head_runs_iff {a : Answer (HeadOutput × ResultInfo)} :
    (head key).Runs t a ↔ t = [called (.head key) a] := Flow.runs_ask_iff

@[simp] theorem get_runs_iff {a : Answer (GetOutput × ResultInfo)} :
    (get key c).Runs t a ↔ t = [called (.get key c) a] := Flow.runs_ask_iff

@[simp] theorem list_runs_iff {a : Answer (List Descriptor × ResultInfo)} :
    (list key).Runs t a ↔ t = [called (.list key) a] := Flow.runs_ask_iff

@[simp] theorem put_runs_iff {r : PutRequest} {a : Answer ResultInfo} :
    (put r).Runs t a ↔ t = [called (.put r) a] := Flow.runs_ask_iff

@[simp] theorem delete_runs_iff {a : Answer ResultInfo} :
    (delete key).Runs t a ↔ t = [called (.delete key) a] := Flow.runs_ask_iff

@[simp] theorem signedUrl_runs_iff {span : Timespan} {a : Answer String} :
    (signedUrl key c span).Runs t a ↔ t = [called (.signedUrl key c span) a] := Flow.runs_ask_iff

@[simp] theorem dispatch_runs_iff {e : HookEvent} {a : Unit} :
    (dispatch e).Runs t a ↔ t = [told e] := Flow.runs_ask_iff

@[simp] theorem sendFile_runs_iff {f : FileAnswer} {a : Answer Unit} :
    (sendFile f).Runs t a ↔ t = [sent f a] := Flow.runs_ask_iff

@[simp] theorem respond_runs_iff {o : Outcome} {a : Unit} :
    (respond o).Runs t a ↔ t = [answered o] := Flow.runs_ask_iff

end GatewayFlow

end ObjectGateway
