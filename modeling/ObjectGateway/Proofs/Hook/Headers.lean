import ObjectGateway.Proofs.Config.Valid
import ObjectGateway.Proofs.Hook.Attempts
import ObjectGateway.Proofs.TextMap

/-!
# The headers of hooks

Headers of a webhook are configured in two maps, which tell names apart that differ only in case, and
are sent in one, which does not.  There every name has one value: the type of the body is always the
same, a secret comes before what is not secret, and of the spellings of a name in one map the last
one counts.  `Hook.headers_sent` says so of every attempt, and lists what keeps a webhook from being
called at all; a header that would be replaced has to be valid like any other.
-/

namespace ObjectGateway

/-! ## Names up to case -/

namespace TextMap

variable {α : Type} {name key : String} {a : α}

/-- The values of a name in whatever case. -/
def valuesOf (m : TextMap String) (name : String) : List String :=
  (m.filter fun p => Text.eqIgnoringCase p.1 name).map (·.2)

/-- A name is in a map in some case. -/
def HasName (m : TextMap α) (name : String) : Prop :=
  ∃ p ∈ m, Text.eqIgnoringCase p.1 name = true

/-- The last spelling of a name in a map, with its value. -/
structure IsLastOf (m : TextMap α) (name key : String) (a : α) : Prop where
  mem : (key, a) ∈ m
  spells : Text.eqIgnoringCase key name = true
  last : ∀ p ∈ m, Text.eqIgnoringCase p.1 name = true → p.1 ≤ key

theorem eqIgnoringCase_iff {s t : String} :
    Text.eqIgnoringCase s t = true ↔ Text.asciiLower s = Text.asciiLower t := beq_iff_eq

theorem toLower_toLower (c : Char) : c.toLower.toLower = c.toLower := by
  by_cases h : c.val ≥ 'A'.val ∧ c.val ≤ 'Z'.val
  · have hlower : c.toLower.val = c.val + ('a'.val - 'A'.val) :=
      congrArg Char.val (dif_pos h)
    have hnot : ¬(c.toLower.val ≥ 'A'.val ∧ c.toLower.val ≤ 'Z'.val) := by
      have hends : 'A'.val.toNat = 65 ∧ 'Z'.val.toNat = 90 ∧ ('a'.val - 'A'.val).toNat = 32 := by
        decide
      rw [hlower]
      simp only [ge_iff_le, UInt32.le_iff_toNat_le, UInt32.toNat_add] at h ⊢
      omega
    exact dif_neg hnot
  · have hsame : c.toLower = c := dif_neg h
    rw [hsame, hsame]

theorem asciiLower_asciiLower (s : String) :
    Text.asciiLower (Text.asciiLower s) = Text.asciiLower s := by
  rw [Text.asciiLower, Text.asciiLower, String.toList_ofList, List.map_map]
  exact congrArg String.ofList (List.map_congr_left fun c _ => toLower_toLower c)

/-- A map in lower case has at most one value for a name. -/
theorem valuesOf_eq_toList {m : TextMap String} (hordered : m.Ordered)
    (hlower : ∀ k ∈ keys m, Text.asciiLower k = k) (name : String) :
    m.valuesOf name = (m.get? (Text.asciiLower name)).toList := by
  induction m with
  | nil => rfl
  | cons p rest ih =>
    have hrest := ih (ordered_cons_iff.1 hordered).2 fun k hk =>
      hlower k (List.mem_cons_of_mem _ hk)
    have hname : Text.eqIgnoringCase p.1 name = true ↔ Text.asciiLower name = p.1 := by
      rw [eqIgnoringCase_iff, hlower p.1 List.mem_cons_self, eq_comm]
    rw [get?_cons]
    by_cases hp : Text.asciiLower name = p.1
    · have hnone : get? p.1 rest = none := by
        rw [Option.eq_none_iff_forall_ne_some]
        intro v hv
        exact String.lt_irrefl p.1 ((ordered_cons_iff.1 hordered).1 p.1 (mem_keys_iff.2 ⟨v, hv⟩))
      rw [valuesOf, List.filter_cons, if_pos (hname.2 hp), List.map_cons, if_pos hp]
      rw [hp, hnone] at hrest
      exact congrArg (p.2 :: ·) hrest
    · rw [valuesOf, List.filter_cons, if_neg (mt hname.1 hp), if_neg hp]
      exact hrest

end TextMap

/-! ## What is sent, and what is refused -/

/-- A name and a value can be sent as a header. -/
def IsHeader (name value : String) : Prop :=
  Http.isName name = true ∧ Http.isValue (Text.Utf8.encode value) = true

namespace Webhook

/-- The headers that a webhook is called with: one value for each name, whatever its case. -/
structure SendsHeaders (surroundings : Surroundings) (w : Webhook) (headers : TextMap String) :
    Prop where
  single : ∀ name, (headers.valuesOf name).length ≤ 1
  contentType : ∀ name, Text.eqIgnoringCase name "content-type" = true →
    headers.valuesOf name = ["application/json"]
  secret : ∀ name key secret, Text.eqIgnoringCase name "content-type" = false →
    w.secretHeaders.IsLastOf name key secret →
      ∃ value, secret.resolve surroundings = .ok value ∧ headers.valuesOf name = [value]
  plain : ∀ name key value, Text.eqIgnoringCase name "content-type" = false →
    ¬w.secretHeaders.HasName name → w.headers.IsLastOf name key value →
      headers.valuesOf name = [value]
  others : ∀ name, Text.eqIgnoringCase name "content-type" = false →
    ¬w.secretHeaders.HasName name → ¬w.headers.HasName name → headers.valuesOf name = []

/-- What keeps a webhook from being called. -/
inductive Faulty (surroundings : Surroundings) (w : Webhook) : Prop
  | wait (text : String) (htext : w.defaultWaitTime = some text ∨ w.maxWaitTime = some text)
    (h : Fails (Timespan.parse text))
  | method (h : Http.isToken (Text.asciiUpper w.method) = false)
  /-- A header that another one replaces counts as well. -/
  | header (name value : String) (hmem : (name, value) ∈ w.headers) (h : ¬IsHeader name value)
  | secretHeader (name value : String) (secret : Secret) (hmem : (name, secret) ∈ w.secretHeaders)
    (hvalue : secret.resolve surroundings = .ok value) (h : ¬IsHeader name value)
  | unresolved (name : String) (secret : Secret) (hmem : (name, secret) ∈ w.secretHeaders)
    (h : Fails (secret.resolve surroundings))

end Webhook

namespace Hook

/-! ## Maps of headers -/

section Headers

variable {α : Type} {m m' : TextMap String} {name key value : String}

theorem addHeader_eq_ok_iff :
    addHeader m name value = .ok m' ↔
      IsHeader name value ∧ m' = m.insert (Text.asciiLower name) value := by
  unfold addHeader IsHeader
  dsimp only
  by_cases hname : Http.isName name = true
  · by_cases hvalue : Http.isValue (Text.Utf8.encode value) = true
    · simp [hname, hvalue, eq_comm]
    · simp [hname, hvalue]
  · simp [hname]

/-- Read the values of some entries and add them to the headers. -/
def addAll (resolve : α → Answer String) (entries : TextMap α) (m : TextMap String) :
    Answer (TextMap String) :=
  entries.foldlM (fun m p => resolve p.2 >>= addHeader m p.1) m

theorem readHeaders_eq (surroundings : Surroundings) (w : Webhook) :
    readHeaders surroundings w =
      (addAll .ok w.headers [] >>= fun plain =>
        addAll (fun secret => secret.resolve surroundings) w.secretHeaders plain >>= fun all =>
          .ok (all.insert "content-type" "application/json")) := rfl

/-- What is put into the headers for an entry: its value, at its name in lower case. -/
structure Puts (resolve : α → Answer String) (entry : String × α) (put : String × String) :
    Prop where
  resolved : resolve entry.2 = .ok put.2
  isHeader : IsHeader entry.1 put.2
  name : put.1 = Text.asciiLower entry.1

variable {resolve : α → Answer String} {entries : TextMap α} {puts : List (String × String)}

/-- All entries are put into the headers if each of them can be. -/
theorem addAll_eq_ok_iff :
    addAll resolve entries m = .ok m' ↔
      ∃ puts, List.Forall₂ (Puts resolve) entries puts ∧ m' = m.insertAll puts := by
  unfold addAll
  induction entries generalizing m with
  | nil =>
    rw [List.foldlM_nil]
    constructor
    · rintro ⟨⟩
      exact ⟨[], .nil, rfl⟩
    · rintro ⟨_, ⟨⟩, rfl⟩
      rfl
  | cons p rest ih =>
    rw [List.foldlM_cons, bind_eq_ok_iff]
    simp only [bind_eq_ok_iff, addHeader_eq_ok_iff, ih]
    constructor
    · rintro ⟨_, ⟨v, hv, hheader, rfl⟩, puts, hputs, rfl⟩
      exact ⟨(Text.asciiLower p.1, v) :: puts, .cons ⟨hv, hheader, rfl⟩ hputs, rfl⟩
    · rintro ⟨_, hputs, rfl⟩
      cases hputs with
      | @cons _ q _ puts hq hputs =>
        refine ⟨_, ⟨q.2, hq.resolved, hq.isHeader, rfl⟩, puts, hputs, ?_⟩
        rw [← hq.name]
        rfl

theorem addAll_isOk_iff :
    (∃ m', addAll resolve entries m = .ok m') ↔
      ∀ p ∈ entries, ∃ v, resolve p.2 = .ok v ∧ IsHeader p.1 v := by
  have hput (p : String × α) :
      (∃ q, Puts resolve p q) ↔ ∃ v, resolve p.2 = .ok v ∧ IsHeader p.1 v :=
    ⟨fun ⟨q, hq⟩ => ⟨q.2, hq.resolved, hq.isHeader⟩,
      fun ⟨v, hv, hheader⟩ => ⟨(Text.asciiLower p.1, v), hv, hheader, rfl⟩⟩
  have hall : (∃ puts, List.Forall₂ (Puts resolve) entries puts) ↔
      ∀ p ∈ entries, ∃ q, Puts resolve p q := by
    induction entries with
    | nil => simp
    | cons p rest ih => simp [List.forall₂_cons_left_iff, ih]
  simp only [addAll_eq_ok_iff, ← hput, ← hall]
  exact ⟨fun ⟨_, puts, hputs, _⟩ => ⟨puts, hputs⟩, fun ⟨puts, hputs⟩ => ⟨_, puts, hputs, rfl⟩⟩

/-- What is put has the names of the entries. -/
theorem mem_puts (h : List.Forall₂ (Puts resolve) entries puts) {k : String}
    (hk : k ∈ puts.map Prod.fst) : ∃ p ∈ entries, k = Text.asciiLower p.1 := by
  induction h with
  | nil => cases hk
  | @cons p q _ _ hput _ ih =>
    rcases List.mem_cons.1 hk with rfl | hk
    · exact ⟨p, List.mem_cons_self, hput.name⟩
    · obtain ⟨r, hr, hname⟩ := ih hk
      exact ⟨r, List.mem_cons_of_mem p hr, hname⟩

theorem get?_insertAll_of_not_hasName (h : List.Forall₂ (Puts resolve) entries puts)
    (hname : ¬TextMap.HasName entries name) (m : TextMap String) :
    (m.insertAll puts).get? (Text.asciiLower name) = m.get? (Text.asciiLower name) := by
  refine TextMap.get?_insertAll_of_notMem (fun hk => ?_) m
  obtain ⟨p, hp, hlower⟩ := mem_puts h hk
  exact hname ⟨p, hp, TextMap.eqIgnoringCase_iff.2 hlower.symm⟩

/-- The last spelling of a name has its value in the headers. -/
theorem get?_insertAll_of_isLastOf {a : α} (h : List.Forall₂ (Puts resolve) entries puts)
    (hordered : TextMap.Ordered entries) (hlast : TextMap.IsLastOf entries name key a)
    (m : TextMap String) :
    ∃ v, resolve a = .ok v ∧ (m.insertAll puts).get? (Text.asciiLower name) = some v := by
  induction h generalizing m with
  | nil => cases hlast.mem
  | @cons p q rest puts hput hputs ih =>
    obtain ⟨hfirst, hrest⟩ := TextMap.ordered_cons_iff.1 hordered
    by_cases hlater : TextMap.HasName rest name
    · -- A later spelling comes behind this one, so that this one is not the last.
      refine ih hrest ⟨?_, hlast.spells, fun r hr => hlast.last r (List.mem_cons_of_mem p hr)⟩ _
      obtain ⟨r, hr, hspells⟩ := hlater
      refine (List.mem_cons.1 hlast.mem).resolve_left fun hp => ?_
      have hle : r.1 ≤ p.1 := hp ▸ hlast.last r (List.mem_cons_of_mem p hr) hspells
      exact String.lt_irrefl p.1
        (Std.lt_of_lt_of_le (hfirst r.1 (List.mem_map_of_mem hr)) hle)
    · have hp : (key, a) = p := (List.mem_cons.1 hlast.mem).resolve_right fun hr =>
        hlater ⟨_, hr, hlast.spells⟩
      subst hp
      refine ⟨q.2, hput.resolved, ?_⟩
      show ((m.insert q.1 q.2).insertAll puts).get? (Text.asciiLower name) = some q.2
      rw [get?_insertAll_of_not_hasName hputs hlater, TextMap.get?_insert,
        if_pos (hput.name.trans (TextMap.eqIgnoringCase_iff.1 hlast.spells)).symm]

end Headers

/-! ## Webhooks -/

section Webhooks

variable {surroundings : Surroundings} {w : Webhook} {headers : TextMap String}

theorem readHeaders_eq_ok_iff :
    readHeaders surroundings w = .ok headers ↔
      ∃ plain secret, List.Forall₂ (Puts .ok) w.headers plain ∧
        List.Forall₂ (Puts fun s => s.resolve surroundings) w.secretHeaders secret ∧
        headers = ((TextMap.insertAll plain []).insertAll secret).insert "content-type"
          "application/json" := by
  simp only [readHeaders_eq, bind_eq_ok_iff, addAll_eq_ok_iff]
  constructor
  · rintro ⟨_, ⟨plain, hplain, rfl⟩, _, ⟨secret, hsecret, rfl⟩, ⟨⟩⟩
    exact ⟨plain, secret, hplain, hsecret, rfl⟩
  · rintro ⟨plain, secret, hplain, hsecret, rfl⟩
    exact ⟨_, ⟨plain, hplain, rfl⟩, _, ⟨secret, hsecret, rfl⟩, rfl⟩

theorem readHeaders_isOk_iff :
    (∃ headers, readHeaders surroundings w = .ok headers) ↔
      (∀ p ∈ w.headers, IsHeader p.1 p.2) ∧
      ∀ p ∈ w.secretHeaders, ∃ value, p.2.resolve surroundings = .ok value ∧
        IsHeader p.1 value := by
  have hplain (p : String × String) :
      (∃ v, (.ok p.2 : Answer String) = .ok v ∧ IsHeader p.1 v) ↔ IsHeader p.1 p.2 := by simp
  have hparts : (∃ headers, readHeaders surroundings w = .ok headers) ↔
      (∃ m, addAll .ok w.headers [] = .ok m) ∧
        ∃ m, addAll (fun s => s.resolve surroundings) w.secretHeaders [] = .ok m := by
    simp only [readHeaders_eq_ok_iff, addAll_eq_ok_iff]
    constructor
    · rintro ⟨_, plain, secret, hplain, hsecret, -⟩
      exact ⟨⟨_, plain, hplain, rfl⟩, _, secret, hsecret, rfl⟩
    · rintro ⟨⟨_, plain, hplain, -⟩, _, secret, hsecret, -⟩
      exact ⟨_, plain, secret, hplain, hsecret, rfl⟩
  rw [hparts, addAll_isOk_iff, addAll_isOk_iff]
  simp only [hplain]

/-- The headers that are made of what is put for one map and for the other. -/
def merged (plain secret : List (String × String)) : TextMap String :=
  ((TextMap.insertAll plain []).insertAll secret).insert "content-type" "application/json"

theorem get?_merged {name : String} (hname : Text.eqIgnoringCase name "content-type" = false)
    (plain secret : List (String × String)) :
    (merged plain secret).get? (Text.asciiLower name) =
      ((TextMap.insertAll plain []).insertAll secret).get? (Text.asciiLower name) := by
  have hne : Text.asciiLower name ≠ "content-type" := fun h =>
    Bool.eq_false_iff.1 hname (TextMap.eqIgnoringCase_iff.2 h)
  rw [merged, TextMap.get?_insert, if_neg hne]

/-- Headers have one value for a name in lower case. -/
theorem valuesOf_merged {plain secret : List (String × String)}
    (hplain : List.Forall₂ (Puts .ok) w.headers plain)
    (hsecret : List.Forall₂ (Puts fun s => s.resolve surroundings) w.secretHeaders secret)
    (name : String) :
    (merged plain secret).valuesOf name =
      ((merged plain secret).get? (Text.asciiLower name)).toList := by
  have hordered : (merged plain secret).Ordered :=
    ((TextMap.ordered_nil.insertAll plain).insertAll secret).insert _ _
  refine TextMap.valuesOf_eq_toList hordered (fun k hk => ?_) name
  rcases TextMap.mem_keys_insert hk with rfl | hk
  · decide
  rcases TextMap.mem_keys_insertAll_iff.1 hk with hk | hk
  · obtain ⟨p, -, rfl⟩ := mem_puts hsecret hk
    exact TextMap.asciiLower_asciiLower p.1
  · have hk := (TextMap.mem_keys_insertAll_iff.1 hk).resolve_right List.not_mem_nil
    obtain ⟨p, -, rfl⟩ := mem_puts hplain hk
    exact TextMap.asciiLower_asciiLower p.1

/-- The headers that are read are those that the webhook is to send. -/
theorem sendsHeaders_of_readHeaders (hplain : w.headers.Ordered)
    (hsecret : w.secretHeaders.Ordered) (h : readHeaders surroundings w = .ok headers) :
    w.SendsHeaders surroundings headers := by
  obtain ⟨plain, secret, hplains, hsecrets, hmerged⟩ := readHeaders_eq_ok_iff.1 h
  obtain rfl : headers = merged plain secret := hmerged
  have hvalues := valuesOf_merged hplains hsecrets
  exact {
    single := fun name => by
      rw [hvalues]
      exact Option.length_toList_le
    contentType := fun name hname => by
      have htype : Text.asciiLower name = "content-type" :=
        (TextMap.eqIgnoringCase_iff.1 hname).trans (by decide)
      rw [hvalues, merged, TextMap.get?_insert, if_pos htype]
      rfl
    secret := fun name key secret hname hlast => by
      obtain ⟨value, hresolve, hget⟩ := get?_insertAll_of_isLastOf hsecrets hsecret hlast
        (TextMap.insertAll plain [])
      refine ⟨value, hresolve, ?_⟩
      rw [hvalues, get?_merged hname, hget]
      rfl
    plain := fun name key value hname hnone hlast => by
      obtain ⟨_, ⟨⟩, hget⟩ := get?_insertAll_of_isLastOf hplains hplain hlast []
      rw [hvalues, get?_merged hname, get?_insertAll_of_not_hasName hsecrets hnone, hget]
      rfl
    others := fun name hname hsecret hplain => by
      rw [hvalues, get?_merged hname, get?_insertAll_of_not_hasName hsecrets hsecret,
        get?_insertAll_of_not_hasName hplains hplain]
      rfl }

theorem fails_readMethod_iff :
    Fails (readMethod w) ↔ Http.isToken (Text.asciiUpper w.method) = false := by
  unfold readMethod
  dsimp only
  cases Http.isToken (Text.asciiUpper w.method) with
  | true => simp
  | false => simp

theorem fails_readHeaders_iff :
    Fails (readHeaders surroundings w) ↔
      (∃ p ∈ w.headers, ¬IsHeader p.1 p.2) ∨
      ∃ p ∈ w.secretHeaders, Fails (p.2.resolve surroundings) ∨
        ∃ value, p.2.resolve surroundings = .ok value ∧ ¬IsHeader p.1 value := by
  have hsecret (p : String × Secret) :
      (¬∃ value, p.2.resolve surroundings = .ok value ∧ IsHeader p.1 value) ↔
        Fails (p.2.resolve surroundings) ∨
          ∃ value, p.2.resolve surroundings = .ok value ∧ ¬IsHeader p.1 value := by
    cases p.2.resolve surroundings with
    | error f => simp
    | ok value => simp
  rw [fails_iff_not_isOk, readHeaders_isOk_iff, not_and_or]
  simp only [not_forall, exists_prop, hsecret]

/-- A webhook becomes a hook unless something is wrong with it. -/
theorem fails_ofConfig_iff : Fails (ofConfig surroundings w) ↔ w.Faulty surroundings := by
  have hparts : Fails (ofConfig surroundings w) ↔
      Fails w.retryWaits ∨ Fails (readMethod w) ∨ Fails (readHeaders surroundings w) :=
    fails_bind_iff fun _ => fails_bind_iff fun _ => fails_bind_pure_iff
  have hwaits : Fails w.retryWaits ↔
      ∃ text, (w.defaultWaitTime = some text ∨ w.maxWaitTime = some text) ∧
        Fails (Timespan.parse text) := by
    rw [fails_iff_not_isOk, Webhook.retryWaits_isOk_iff, Webhook.Valid]
    simp only [not_forall, exists_prop, fails_iff_not_isOk]
  rw [hparts, hwaits, fails_readMethod_iff, fails_readHeaders_iff]
  constructor
  · rintro (⟨text, htext, h⟩ | h | ⟨p, hp, h⟩ | ⟨p, hp, h | ⟨value, hvalue, h⟩⟩)
    · exact .wait text htext h
    · exact .method h
    · exact .header p.1 p.2 hp h
    · exact .unresolved p.1 p.2 hp h
    · exact .secretHeader p.1 value p.2 hp hvalue h
  · intro h
    cases h with
    | wait text htext h => exact .inl ⟨text, htext, h⟩
    | method h => exact .inr (.inl h)
    | header name value hp h => exact .inr (.inr (.inl ⟨_, hp, h⟩))
    | secretHeader name value secret hp hvalue h =>
      exact .inr (.inr (.inr ⟨_, hp, .inr ⟨value, hvalue, h⟩⟩))
    | unresolved name secret hp h => exact .inr (.inr (.inr ⟨_, hp, .inl h⟩))

theorem ofConfig_headers {h : Hook} (hread : ofConfig surroundings w = .ok h) :
    readHeaders surroundings w = .ok h.headers := by
  obtain ⟨waits, -, hread⟩ := bind_eq_ok_iff.1 hread
  obtain ⟨method, -, hread⟩ := bind_eq_ok_iff.1 hread
  obtain ⟨headers, hheaders, ⟨⟩⟩ := bind_eq_ok_iff.1 hread
  exact hheaders

/-- All attempts to call a hook have its headers. -/
theorem headers_of_attempts {h : Hook} {body : Bytes} {wait : Timespan}
    {replies : List (Option Nat)} {e : Exchange DeliveryInterface}
    (he : e ∈ h.attempts body wait replies) {a : HookAttempt} (ha : e.op = .attempt a) :
    a.headers = h.headers := by
  fun_induction attempts h body wait replies with
  | case1 => cases he
  | case2 wait reply =>
    rw [List.mem_singleton] at he
    subst he
    cases ha
    rfl
  | case3 wait reply next rest ih =>
    rcases List.mem_cons.1 he with rfl | he
    · cases ha
      rfl
    rcases List.mem_cons.1 he with rfl | he
    · cases ha
    · exact ih he

/-- A webhook cannot be called exactly if a wait of it cannot be read, its method is none, a header
of it is not valid or a secret is not there.  Otherwise every attempt has the same headers, in which
a name has one value, whatever its case: JSON as the type of the body; the secret of the last
spelling of the name; where no secret has the name, the value of the last spelling of it; and none
where no header has the name. -/
theorem headers_sent (surroundings : Surroundings) (w : Webhook) (hplain : w.headers.Ordered)
    (hsecret : w.secretHeaders.Ordered) :
    (Fails (ofConfig surroundings w) ↔ w.Faulty surroundings) ∧
      ∀ h, ofConfig surroundings w = .ok h → w.SendsHeaders surroundings h.headers ∧
        ∀ body t result, (h.send body).Runs t result →
          ∀ e ∈ t, ∀ a, e.op = .attempt a → a.headers = h.headers := by
  refine ⟨fails_ofConfig_iff, fun h hread => ⟨?_, fun body t result hruns e he a ha => ?_⟩⟩
  · exact sendsHeaders_of_readHeaders hplain hsecret (ofConfig_headers hread)
  · obtain ⟨replies, -, -, rfl⟩ := sendWith_runs_iff.1 hruns
    exact headers_of_attempts he ha

/-- Names that are spelled in two ways, in one map or in both. -/
theorem headers_sent_docs :
    let surroundings : Surroundings := ⟨[("TOKEN", "outside")], .ofList []⟩
    let first : Secret := ⟨none, none, some "inside"⟩
    let last : Secret := ⟨none, some "TOKEN", none⟩
    let w : Webhook := ⟨"http://hooks.test/", "post",
      [("Content-Type", "text/plain"), ("X-Token", "a"), ("X-Trace", "1"), ("x-trace", "2")],
      [("X-TOKEN", first), ("x-Token", last)], 3, none, some "1s"⟩
    let h : Hook := ⟨"http://hooks.test/", "POST",
      [("content-type", "application/json"), ("x-token", "outside"), ("x-trace", "2")],
      3, .ofMillis 100, .ofSeconds 1⟩
    w.headers.Ordered ∧ w.secretHeaders.Ordered ∧ ¬w.Faulty surroundings ∧
      ofConfig surroundings w = .ok h ∧
      Text.eqIgnoringCase "X-token" "content-type" = false ∧
      w.secretHeaders.IsLastOf "X-token" "x-Token" last ∧
      ∃ value, last.resolve surroundings = .ok value ∧ h.headers.valuesOf "X-token" = [value] := by
  intro surroundings first last w h
  have hplain : w.headers.Ordered := by unfold TextMap.Ordered; decide +kernel
  have hsecret : w.secretHeaders.Ordered := by unfold TextMap.Ordered; decide +kernel
  have hread : ofConfig surroundings w = .ok h := by decide +kernel
  have hlast : w.secretHeaders.IsLastOf "X-token" "x-Token" last :=
    ⟨by decide, by decide +kernel, by decide +kernel⟩
  obtain ⟨hfaulty, hsent⟩ := headers_sent surroundings w hplain hsecret
  have hcalled : ¬w.Faulty surroundings := fun hw => by
    obtain ⟨f, hf⟩ := hfaulty.2 hw
    cases hread.symm.trans hf
  exact ⟨hplain, hsecret, hcalled, hread, by decide +kernel, hlast,
    (hsent h hread).1.secret "X-token" "x-Token" last (by decide +kernel) hlast⟩

end Webhooks

end Hook

end ObjectGateway
