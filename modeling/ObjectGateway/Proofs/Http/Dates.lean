import ObjectGateway.Http.Input
import ObjectGateway.Http.Response
import ObjectGateway.Proofs.Failure
import ObjectGateway.Proofs.Multipart.Boundary
import ObjectGateway.Proofs.Time.HeaderDates
import ObjectGateway.Provider.Call

/-!
# Dates that are sent and sent back

A file is sent with the date of its last change, and a later request may make a condition of this
date.  The date can be read where it is sent back, and the condition is then the whole second of the
change: `lastModified_sent_back`.
-/

namespace ObjectGateway

namespace Instant

/-- Printed ASCII, which can stand in a header and be read there. -/
def IsPrinted (s : String) : Prop := ∀ c ∈ s.toList, 32 ≤ c.toNat ∧ c.toNat < 127

instance (s : String) : Decidable (IsPrinted s) := List.decidableBAll _ _

theorem IsPrinted.append {s u : String} (hs : IsPrinted s) (hu : IsPrinted u) :
    IsPrinted (s ++ u) := by
  intro c hc
  rw [String.toList_append] at hc
  exact (List.mem_append.1 hc).elim (hs c) (hu c)

theorem isPrinted_padded (width n : Nat) : IsPrinted (padded width n) := by
  intro c hc
  have hdigit : c.isDigit = true := by
    rw [padded, String.toList_ofList] at hc
    rcases List.mem_append.1 hc with hc | hc
    · rw [List.eq_of_mem_replicate hc]
      rfl
    · exact Timespan.allDigits_toDigits n c hc
  have hrange : 48 ≤ c.toNat ∧ c.toNat ≤ 57 := Char.isDigit_iff_toNat.1 hdigit
  omega

/-- The names of weekdays and months are printed, and so is what stands for one that is none. -/
theorem isPrinted_getD {names : List String} (h : ∀ name ∈ names, IsPrinted name) (i : Nat) :
    IsPrinted (names.getD i "") := by
  rw [List.getD_eq_getElem?_getD]
  cases hname : names[i]? with
  | none => exact (by decide : IsPrinted "")
  | some name => exact h name (List.mem_of_getElem? hname)

theorem isPrinted_yearText (y : Int) : IsPrinted (yearText y) := by
  have hsign : IsPrinted (if y < 0 then "-" else "+") := by split <;> decide
  unfold yearText
  split
  · exact isPrinted_padded _ _
  · exact hsign.append (isPrinted_padded _ _)

theorem isPrinted_httpDate (t : Instant) : IsPrinted t.httpDate := by
  have hweekday : IsPrinted (Time.weekdayNames.getD (Time.weekday t.day) "") :=
    isPrinted_getD (by decide) _
  have hmonth : IsPrinted (Time.monthNames.getD ((Time.Date.ofDays t.day).month - 1) "") :=
    isPrinted_getD (by decide) _
  have hmarks : IsPrinted ", " ∧ IsPrinted " " ∧ IsPrinted ":" ∧ IsPrinted " GMT" := by decide
  obtain ⟨hcomma, hspace, hcolon, hzone⟩ := hmarks
  have hclock : IsPrinted t.clockText :=
    ((((isPrinted_padded _ _).append hcolon).append (isPrinted_padded _ _)).append hcolon).append
      (isPrinted_padded _ _)
  exact ((((((((hweekday.append hcomma).append (isPrinted_padded _ _)).append hspace).append
    hmonth).append hspace).append (isPrinted_yearText _)).append hspace).append hclock).append hzone

theorem httpDate_ne_empty (t : Instant) : t.httpDate.isEmpty = false := by
  rw [Bool.eq_false_iff]
  intro h
  have hempty : t.httpDate.toList = [] := String.toList_eq_nil_iff.2 (String.isEmpty_iff.1 h)
  rw [httpDate, String.toList_append] at hempty
  exact absurd (List.append_eq_nil_iff.1 hempty).2 (by decide)

end Instant

namespace Http

variable {hs : Headers} {name : String} {t : Instant}

/-- A header that holds the date of an instant is read as its whole second. -/
theorem readInstant?_httpDate (ht : t.IsDated)
    (h : hs.get? name = some (Text.Utf8.encode t.httpDate)) :
    readInstant? hs name = .ok (some t.wholeSecond) := by
  have htext : valueText? (Text.Utf8.encode t.httpDate) = some t.httpDate :=
    Multipart.valueText?_encode t.isPrinted_httpDate
  unfold readInstant?
  rw [h]
  simp only [htext, t.httpDate_ne_empty, Bool.false_eq_true, if_false, ht.readHeaderDate_httpDate,
    Instant.wholeSecond]

theorem readInstant?_absent (h : hs.get? name = none) : readInstant? hs name = .ok none := by
  rw [readInstant?, h]

/-- A file is sent with one date of its last change, if that is known. -/
theorem values_lastModified {f : FileAnswer} {response : Response}
    (h : fileResponse f = .ok response) :
    response.headers.values "last-modified" =
      (f.metadata.lastModified.map fun t => Text.Utf8.encode t.httpDate).toList := by
  have hheaders : response.headers = fileHeaders f.metadata := by
    unfold fileResponse at h
    dsimp only at h
    split at h
    · cases h
      rfl
    · cases h
  have htexts : (((fileTexts f.metadata).filter fun p => !p.2.isEmpty).map
      fun p => textHeader p.1 p.2).filter (·.name == "last-modified") = [] := by
    rw [List.filter_eq_nil_iff]
    intro header hheader
    obtain ⟨p, hp, rfl⟩ := List.mem_map.1 hheader
    have hname : p.1 ∈ (fileTexts f.metadata).map Prod.fst :=
      List.mem_map_of_mem (List.mem_filter.1 hp).1
    have hnames : ∀ n ∈ (fileTexts f.metadata).map Prod.fst, ¬(n == "last-modified") = true := by
      simp [fileTexts]
    exact hnames p.1 hname
  have hlength : (if 0 < f.metadata.contentLength then
      [textHeader "content-length" (toString f.metadata.contentLength)] else []).filter
        (·.name == "last-modified") = [] := by
    split
    · rfl
    · rfl
  rw [hheaders, Headers.values, fileHeaders, List.filter_append, List.filter_append, htexts,
    hlength]
  cases f.metadata.lastModified with
  | none => rfl
  | some t => simp [textHeader]

/-- A header repeats the date that a file was sent with, or it is not there. -/
inductive Repeats (hs : Headers) (name : String) : Option Instant → Prop
  | absent (h : hs.get? name = none) : Repeats hs name none
  | date {f : FileAnswer} {response : Response} {t : Instant} {value : Bytes}
      (hsent : fileResponse f = .ok response) (hmodified : f.metadata.lastModified = some t)
      (ht : t.IsDated) (hvalue : value ∈ response.headers.values "last-modified")
      (hname : hs.get? name = some value) : Repeats hs name (some t)

theorem Repeats.readInstant? {modified : Option Instant} (h : Repeats hs name modified) :
    readInstant? hs name = .ok (modified.map (·.wholeSecond)) := by
  cases h with
  | absent h => exact readInstant?_absent h
  | @date f response t value hsent hmodified ht hvalue hname =>
    rw [values_lastModified hsent, hmodified, Option.map_some, Option.toList_some,
      List.mem_singleton] at hvalue
    exact readInstant?_httpDate ht (hname.trans (congrArg some hvalue))

/-- A file whose last change is known is sent with its date.  For an instant of the years 0 to 9999
that is not in a leap second, a header with this text is read as the whole second of the instant, and
a request that sends such dates back, as either condition or as both, asks for exactly these
seconds. -/
theorem lastModified_sent_back :
    (∀ (f : FileAnswer) (response : Response) (t : Instant), fileResponse f = .ok response →
      f.metadata.lastModified = some t →
      response.headers.values "last-modified" = [Text.Utf8.encode t.httpDate]) ∧
    (∀ (t : Instant) (hs : Headers) (name : String), t.IsDated →
      hs.get? name = some (Text.Utf8.encode t.httpDate) →
      readInstant? hs name = .ok (some t.wholeSecond)) ∧
    ∀ (hs : Headers) (path : String) (since unmodified : Option Instant),
      Repeats hs "if-modified-since" since → Repeats hs "if-unmodified-since" unmodified →
      readGetInput path hs = .ok ⟨path, {
        ifModifiedSince := since.map (·.wholeSecond)
        ifUnmodifiedSince := unmodified.map (·.wholeSecond)
        ifMatch := nonemptyText? hs "if-match"
        ifNoneMatch := nonemptyText? hs "if-none-match"
        range := nonemptyText? hs "range" }⟩ := by
  refine ⟨fun f response t hsent hmodified => ?_, fun t hs name ht h => readInstant?_httpDate ht h,
    fun hs path since unmodified hsince hunmodified => ?_⟩
  · rw [values_lastModified hsent, hmodified, Option.map_some, Option.toList_some]
  · unfold readGetInput
    rw [hsince.readInstant?, hunmodified.readInstant?]
    rfl

/-- The last second of a leap day, sent back as one condition and as the other. -/
theorem lastModified_sent_back_docs :
    let t : Instant := ⟨951868799, 999999999⟩
    let f : FileAnswer := ⟨none, { ObjectMetadata.empty with lastModified := some t }⟩
    let value := Text.Utf8.encode "Tue, 29 Feb 2000 23:59:59 GMT"
    let response : Response := ⟨200, [⟨"last-modified", value⟩], .empty⟩
    let hs : Headers := [⟨"if-modified-since", value⟩, ⟨"if-unmodified-since", value⟩]
    t.IsDated ∧ fileResponse f = .ok response ∧
      response.headers.values "last-modified" = [Text.Utf8.encode t.httpDate] ∧
      readInstant? hs "if-modified-since" = .ok (some ⟨951868799, 0⟩) ∧
      readGetInput "/a" hs = .ok ⟨"/a", { GetConditions.none with
        ifModifiedSince := some ⟨951868799, 0⟩
        ifUnmodifiedSince := some ⟨951868799, 0⟩ }⟩ := by
  intro t f value response hs
  have ht : t.IsDated := by decide +kernel
  have hsent : fileResponse f = .ok response := by decide +kernel
  have hvalue : value = Text.Utf8.encode t.httpDate := by decide +kernel
  obtain ⟨hfile, hread, hinput⟩ := lastModified_sent_back
  refine ⟨ht, hsent, hfile f response t hsent rfl, ?_, ?_⟩
  · exact hread t hs "if-modified-since" ht (congrArg some hvalue)
  · exact hinput hs "/a" (some t) (some t) (.date hsent rfl ht List.mem_cons_self rfl)
      (.date hsent rfl ht List.mem_cons_self rfl)

end Http

end ObjectGateway
