import ObjectGateway.Http.Responder
import ObjectGateway.Proofs.Http.Dates

/-!
# Files over HTTP

What is known about a file comes from its store, and any text may be there.  Texts that can stand in
headers make one response, with one header for each that is known, and the status tells whether the
file is whole; any other text makes none: `file_sent_or_refused`.
-/

namespace ObjectGateway.Http

variable {hs : Headers} {m : ObjectMetadata} {name text : String}

/-! ## Texts in headers -/

/-- A text without control characters, other than tabs. -/
def IsHeaderText (s : String) : Prop := ∀ c ∈ s.toList, c = '\t' ∨ 32 ≤ c.toNat ∧ c.toNat ≠ 127

instance (s : String) : Decidable (IsHeaderText s) := List.decidableBAll _ _

theorem isValueByte_iff {b : UInt8} : isValueByte b = true ↔ b = 9 ∨ 32 ≤ b ∧ b ≠ 127 := by
  simp [isValueByte]

/-- Characters beyond ASCII may stand in headers, and so may all of their octets. -/
theorem isValue_encode_iff {s : String} : isValue (Text.Utf8.encode s) = true ↔ IsHeaderText s := by
  rw [isValue, List.all_eq_true]
  constructor
  · intro h c hc
    by_cases hascii : c.toNat < 0x80
    · have hbyte := h _ ((Text.Utf8.mem_encodeList_iff hascii).2 hc)
      rw [isValueByte_iff, UInt8.le_iff_toNat_le, ← UInt8.toNat_inj, Ne, ← UInt8.toNat_inj,
        Text.Utf8.toNat_toUInt8 (by omega)] at hbyte
      rw [← Char.toNat_inj]
      exact hbyte
    · exact .inr (by omega)
  · intro h b hb
    rw [isValueByte_iff, UInt8.le_iff_toNat_le, ← UInt8.toNat_inj, Ne, ← UInt8.toNat_inj]
    show b.toNat = 9 ∨ 32 ≤ b.toNat ∧ ¬b.toNat = 127
    by_cases hascii : b.toNat < 0x80
    · have hcode : (Char.ofNat b.toNat).toNat = b.toNat := by
        have hvalid : b.toNat.isValidChar := .inl (by omega)
        rw [Char.ofNat, dif_pos hvalid]
        rfl
      have hchar : Char.ofNat b.toNat ∈ s.toList := by
        refine (Text.Utf8.mem_encodeList_iff (hcode.trans_lt hascii)).1 ?_
        rwa [hcode, Nat.toUInt8, UInt8.ofNat_toNat]
      have hfree := h _ hchar
      rw [← Char.toNat_inj, hcode] at hfree
      exact hfree
    · omega

theorem isHeaderText_of_isPrinted {s : String} (h : Instant.IsPrinted s) : IsHeaderText s :=
  fun c hc => .inr ⟨(h c hc).1, Nat.ne_of_lt (h c hc).2⟩

theorem isPrinted_toString {n : Int} (h : 0 ≤ n) : Instant.IsPrinted (toString n) := by
  intro c hc
  rw [Int.toString_eq_repr, Int.repr_eq_if, if_pos h, Nat.repr_eq_ofList_toDigits,
    String.toList_ofList] at hc
  have hrange : 48 ≤ c.toNat ∧ c.toNat ≤ 57 :=
    Char.isDigit_iff_toNat.1 (Timespan.allDigits_toDigits n.toNat c hc)
  omega

/-! ## One header for each text -/

@[simp] theorem textHeader_name (name value : String) : (textHeader name value).name = name := rfl

@[simp] theorem textHeader_value (name value : String) :
    (textHeader name value).value = Text.Utf8.encode value := rfl

/-- The headers of texts, where those that are empty are left out. -/
def textHeaders (ps : List (String × String)) : Headers :=
  (ps.filter fun p => !p.2.isEmpty).map fun p => textHeader p.1 p.2

theorem fileHeaders_eq (m : ObjectMetadata) :
    fileHeaders m = textHeaders (fileTexts m) ++
      (if 0 < m.contentLength then [textHeader "content-length" (toString m.contentLength)]
        else []) ++
      (m.lastModified.map fun t => textHeader "last-modified" t.httpDate).toList := by
  rw [fileHeaders, textHeaders]
  cases m.lastModified with
  | none => rfl
  | some t => rfl

theorem mem_textHeaders_iff {ps : List (String × String)} {header : Header} :
    header ∈ textHeaders ps ↔ ∃ p ∈ ps, p.2 ≠ "" ∧ textHeader p.1 p.2 = header := by
  simp only [textHeaders, List.mem_map, List.mem_filter, and_assoc, Bool.not_eq_true',
    String.isEmpty_eq_false_iff]

@[simp] theorem Headers.values_append (hs others : Headers) (name : String) :
    (hs ++ others).values name = hs.values name ++ others.values name := by
  rw [Headers.values, List.filter_append, List.map_append, Headers.values, Headers.values]

theorem Headers.values_eq_nil (h : ∀ header ∈ hs, header.name ≠ name) : hs.values name = [] := by
  rw [Headers.values, List.map_eq_nil_iff, List.filter_eq_nil_iff]
  intro header hheader
  simpa using h header hheader

theorem values_textHeaders_of_notMem {ps : List (String × String)} (h : name ∉ ps.map Prod.fst) :
    (textHeaders ps).values name = [] := by
  refine Headers.values_eq_nil fun header hheader heq => h ?_
  obtain ⟨p, hp, -, rfl⟩ := mem_textHeaders_iff.1 hheader
  have hname : p.1 = name := heq
  rw [← hname]
  exact List.mem_map_of_mem hp

/-- Texts that have names of their own are found under them. -/
theorem values_textHeaders {ps : List (String × String)} (hnames : (ps.map Prod.fst).Nodup)
    (h : (name, text) ∈ ps) :
    (textHeaders ps).values name = if text = "" then [] else [Text.Utf8.encode text] := by
  induction ps with
  | nil => cases h
  | cons p rest ih =>
    rw [List.map_cons, List.nodup_cons] at hnames
    have hsplit : textHeaders (p :: rest) = textHeaders [p] ++ textHeaders rest := by
      rw [textHeaders, textHeaders, textHeaders, ← List.map_append, ← List.filter_append]
      rfl
    rw [hsplit, Headers.values_append]
    rcases List.mem_cons.1 h with rfl | hrest
    · rw [values_textHeaders_of_notMem hnames.1, List.append_nil]
      by_cases hempty : text = ""
      · rw [if_pos hempty, hempty]
        rfl
      · simp [textHeaders, textHeader, Headers.values, hempty]
    · have hother : name ∉ [p].map Prod.fst := fun hname => by
        rw [List.map_singleton, List.mem_singleton] at hname
        exact hnames.1 (hname ▸ List.mem_map_of_mem hrest)
      rw [values_textHeaders_of_notMem hother, List.nil_append, ih hnames.2 hrest]

/-! ## What is known about a file -/

/-- A text is sent under a name of its own: once with all of its octets, unless it is empty. -/
def Tells (hs : Headers) (name text : String) : Prop :=
  hs.values name = if text = "" then [] else [Text.Utf8.encode text]

/-- The texts of a file. -/
def knownTexts (m : ObjectMetadata) : List String :=
  [m.cacheControl, m.expires, m.contentDisposition, m.contentEncoding, m.contentLanguage,
    m.contentRange, m.contentType, m.etag, m.contentDigest]

/-- Every text that is known about a file can stand in a header. -/
def Sendable (m : ObjectMetadata) : Prop := ∀ text ∈ knownTexts m, text ≠ "" → IsHeaderText text

instance (m : ObjectMetadata) : Decidable (Sendable m) :=
  inferInstanceAs (Decidable (∀ text ∈ knownTexts m, text ≠ "" → IsHeaderText text))

theorem knownTexts_eq (m : ObjectMetadata) : knownTexts m = (fileTexts m).map Prod.snd := rfl

/-- Headers tell what is known about a file, and nothing else.  No octet in them ends a header. -/
structure TellsFile (m : ObjectMetadata) (hs : Headers) : Prop where
  cacheControl : Tells hs "cache-control" m.cacheControl
  expires : Tells hs "expires" m.expires
  contentDisposition : Tells hs "content-disposition" m.contentDisposition
  contentEncoding : Tells hs "content-encoding" m.contentEncoding
  contentLanguage : Tells hs "content-language" m.contentLanguage
  contentRange : Tells hs "content-range" m.contentRange
  contentType : Tells hs "content-type" m.contentType
  etag : Tells hs "etag" m.etag
  contentDigest : Tells hs "content-digest" m.contentDigest
  contentLength : hs.values "content-length" =
    if 0 < m.contentLength then [Text.Utf8.encode (toString m.contentLength)] else []
  lastModified : hs.values "last-modified" =
    (m.lastModified.map fun t => Text.Utf8.encode t.httpDate).toList
  names : ∀ header ∈ hs, header.name ∈ ["cache-control", "expires", "content-disposition",
    "content-encoding", "content-language", "content-range", "content-type", "etag",
    "content-digest", "content-length", "last-modified"]
  clean : ∀ header ∈ hs, ∀ b ∈ header.value, b = 9 ∨ 32 ≤ b ∧ b ≠ 127

theorem fileHeaders_cases {header : Header} (h : header ∈ fileHeaders m) :
    (∃ p ∈ fileTexts m, p.2 ≠ "" ∧ textHeader p.1 p.2 = header) ∨
      (0 < m.contentLength ∧ header = textHeader "content-length" (toString m.contentLength)) ∨
      ∃ t, m.lastModified = some t ∧ header = textHeader "last-modified" t.httpDate := by
  rw [fileHeaders_eq, List.mem_append, List.mem_append, mem_textHeaders_iff] at h
  rcases h with (h | h) | h
  · exact .inl h
  · right
    left
    split at h
    · next hpos => exact ⟨hpos, List.mem_singleton.1 h⟩
    · cases h
  · right
    right
    rw [Option.mem_toList, Option.map_eq_some_iff] at h
    obtain ⟨t, ht, rfl⟩ := h
    exact ⟨t, ht, rfl⟩

/-- A length and a date can always stand in a header. -/
theorem all_isValue_iff :
    (fileHeaders m).all (fun header => isValue header.value) = true ↔ Sendable m := by
  rw [List.all_eq_true]
  constructor
  · intro h text htext hne
    rw [knownTexts_eq] at htext
    obtain ⟨p, hp, rfl⟩ := List.mem_map.1 htext
    refine isValue_encode_iff.1 (h (textHeader p.1 p.2) ?_)
    rw [fileHeaders_eq, List.append_assoc]
    exact List.mem_append_left _ (mem_textHeaders_iff.2 ⟨p, hp, hne, rfl⟩)
  · intro h header hheader
    rcases fileHeaders_cases hheader with ⟨p, hp, hne, rfl⟩ | ⟨hpos, rfl⟩ | ⟨t, -, rfl⟩
    · have hknown : p.2 ∈ knownTexts m := by
        rw [knownTexts_eq]
        exact List.mem_map_of_mem hp
      rw [textHeader_value]
      exact isValue_encode_iff.2 (h p.2 hknown hne)
    · rw [textHeader_value]
      exact isValue_encode_iff.2 (isHeaderText_of_isPrinted (isPrinted_toString hpos.le))
    · rw [textHeader_value]
      exact isValue_encode_iff.2 (isHeaderText_of_isPrinted t.isPrinted_httpDate)

theorem tells_fileHeaders (h : (name, text) ∈ fileTexts m) : Tells (fileHeaders m) name text := by
  have hnodup : ((fileTexts m).map Prod.fst).Nodup := by
    simp [fileTexts]
  have hother : name ≠ "content-length" ∧ name ≠ "last-modified" := by
    have hname : name ∈ (fileTexts m).map Prod.fst := List.mem_map_of_mem h
    have hnone : "content-length" ∉ (fileTexts m).map Prod.fst ∧
        "last-modified" ∉ (fileTexts m).map Prod.fst := by simp [fileTexts]
    exact ⟨fun heq => hnone.1 (heq ▸ hname), fun heq => hnone.2 (heq ▸ hname)⟩
  have hlength : Headers.values (if 0 < m.contentLength then
      [textHeader "content-length" (toString m.contentLength)] else []) name = [] := by
    refine Headers.values_eq_nil fun header hheader => ?_
    split at hheader
    · rw [List.mem_singleton.1 hheader]
      exact hother.1.symm
    · cases hheader
  have hdate : Headers.values
      (m.lastModified.map fun t => textHeader "last-modified" t.httpDate).toList name = [] := by
    refine Headers.values_eq_nil fun header hheader => ?_
    rw [Option.mem_toList, Option.map_eq_some_iff] at hheader
    obtain ⟨t, -, rfl⟩ := hheader
    exact hother.2.symm
  rw [Tells, fileHeaders_eq, Headers.values_append, Headers.values_append, hlength, hdate,
    List.append_nil, List.append_nil]
  exact values_textHeaders hnodup h

theorem values_contentLength (m : ObjectMetadata) :
    (fileHeaders m).values "content-length" =
      if 0 < m.contentLength then [Text.Utf8.encode (toString m.contentLength)] else [] := by
  have htexts : (textHeaders (fileTexts m)).values "content-length" = [] :=
    values_textHeaders_of_notMem (by simp [fileTexts])
  have hdate : Headers.values (m.lastModified.map fun t =>
      textHeader "last-modified" t.httpDate).toList "content-length" = [] := by
    cases m.lastModified with
    | none => rfl
    | some t => rfl
  rw [fileHeaders_eq, Headers.values_append, Headers.values_append, htexts, hdate,
    List.nil_append, List.append_nil]
  split
  · rfl
  · rfl

theorem fileResponse_eq (f : FileAnswer) :
    fileResponse f =
      if Sendable f.metadata then
        .ok ⟨fileStatus f.metadata, fileHeaders f.metadata, f.body.elim .empty .streaming⟩
      else .error (.internal "file headers") := by
  by_cases hvalid : (fileHeaders f.metadata).all (fun header => isValue header.value) = true
  · rw [if_pos (all_isValue_iff.1 hvalid), fileResponse, if_pos hvalid]
    obtain ⟨body, m⟩ := f
    cases body with
    | none => rfl
    | some stream => rfl
  · rw [if_neg fun h => hvalid (all_isValue_iff.2 h), fileResponse, if_neg hvalid]

theorem fileHeaders_tells (h : Sendable m) : TellsFile m (fileHeaders m) where
  cacheControl := tells_fileHeaders (by simp [fileTexts])
  expires := tells_fileHeaders (by simp [fileTexts])
  contentDisposition := tells_fileHeaders (by simp [fileTexts])
  contentEncoding := tells_fileHeaders (by simp [fileTexts])
  contentLanguage := tells_fileHeaders (by simp [fileTexts])
  contentRange := tells_fileHeaders (by simp [fileTexts])
  contentType := tells_fileHeaders (by simp [fileTexts])
  etag := tells_fileHeaders (by simp [fileTexts])
  contentDigest := tells_fileHeaders (by simp [fileTexts])
  contentLength := values_contentLength m
  lastModified := by
    have hsent := fileResponse_eq ⟨none, m⟩
    rw [if_pos h] at hsent
    exact values_lastModified hsent
  names := by
    intro header hheader
    rcases fileHeaders_cases hheader with ⟨p, hp, -, rfl⟩ | ⟨-, rfl⟩ | ⟨t, -, rfl⟩
    · have hname : p.1 ∈ (fileTexts m).map Prod.fst := List.mem_map_of_mem hp
      exact List.mem_append_left ["content-length", "last-modified"] hname
    · simp
    · simp
  clean := by
    intro header hheader b hb
    have hvalue := List.all_eq_true.1 (all_isValue_iff.2 h) header hheader
    exact isValueByte_iff.1 (List.all_eq_true.1 hvalue b hb)

/-! ## The status -/

/-- A text writes the range of octets of a whole, from the first to the last of them. -/
inductive WritesRange : String → Nat → Nat → Nat → Prop
  | intro {first last total : List Char} (hfirst : first ≠ [] ∧ Timespan.AllDigits first)
      (hlast : last ≠ [] ∧ Timespan.AllDigits last)
      (htotal : total ≠ [] ∧ Timespan.AllDigits total) :
      WritesRange (String.ofList ("bytes ".toList ++ first ++ '-' :: last ++ '/' :: total))
        (Timespan.numeral first) (Timespan.numeral last) (Timespan.numeral total)

/-- Digits denote their number, if it can be written as a length. -/
theorem readLength?_digits {ds : List Char} (hne : ds ≠ []) (hds : Timespan.AllDigits ds) :
    readLength? ds =
      if (Timespan.numeral ds : Int) < lengthBound then some (Timespan.numeral ds : Int)
      else none := by
  have hall : (ds.isEmpty || !ds.all Char.isDigit) = false := by
    simpa [hne, Timespan.AllDigits] using hds
  have hsign : ∀ rest, ds ≠ '-' :: rest ∧ ds ≠ '+' :: rest := by
    intro rest
    constructor
    · rintro rfl
      cases hds '-' List.mem_cons_self
    · rintro rfl
      cases hds '+' List.mem_cons_self
  have hvalue : ds.foldl (fun n c => n * 10 + (c.toNat - '0'.toNat)) 0 = Timespan.numeral ds := by
    have hfold := Timespan.foldl_digitValue ds 0
    rwa [Nat.zero_mul, Nat.zero_add] at hfold
  have hbelow : -lengthBound ≤ (Timespan.numeral ds : Int) := by
    have hbound : 0 ≤ lengthBound := by decide
    omega
  unfold readLength?
  split
  next sign rest heq =>
    obtain ⟨rfl, rfl⟩ : sign = 1 ∧ rest = ds := by
      split at heq
      · next rest => exact absurd rfl (hsign rest).1
      · next rest => exact absurd rfl (hsign rest).2
      · exact ⟨(Prod.mk.inj heq).1.symm, (Prod.mk.inj heq).2.symm⟩
    simp only [hall, Bool.false_eq_true, if_false, hvalue, Int.one_mul, hbelow, true_and]

theorem rangeTotal?_of_writesRange {range : String} {first last total : Nat}
    (h : WritesRange range first last total) :
    rangeTotal? range = if (total : Int) < lengthBound then some (total : Int) else none := by
  cases h with
  | @intro first last total hfirst hlast htotal =>
    have hmark : ∀ {ds : List Char}, Timespan.AllDigits ds → '/' ∉ ds :=
      fun hds hmem => absurd (hds '/' hmem) (by decide)
    have hbefore : '/' ∉ "bytes ".toList ++ first ++ '-' :: last := by
      simp [hmark hfirst.2, hmark hlast.2]
    have htrim : Text.trimList Text.isBlank total = total :=
      Text.trimList_eq_self
        (fun c hc => Timespan.isBlank_eq_false (.inr (htotal.2 c (List.mem_of_mem_head? hc))))
        (fun c hc => Timespan.isBlank_eq_false (.inr (htotal.2 c (List.mem_of_mem_getLast? hc))))
    have hcut : Text.splitOn '/' ("bytes ".toList ++ first ++ '-' :: last ++ '/' :: total) =
        ["bytes ".toList ++ first ++ '-' :: last, total] := by
      rw [Text.splitOn_append_cons hbefore, Text.splitOn_of_notMem (hmark htotal.2)]
    rw [rangeTotal?, String.toList_ofList, hcut, ← readLength?_digits htotal.1 htotal.2]
    show readLength? (Text.trimList Text.isBlank total) = _
    rw [htrim]

theorem WritesRange.ne_empty {range : String} {first last total : Nat}
    (h : WritesRange range first last total) : range ≠ "" := by
  cases h with
  | intro hfirst hlast htotal =>
    rw [Ne, ← String.toList_eq_nil_iff, String.toList_ofList]
    simp

theorem fileStatus_of_writesRange {first last total : Nat}
    (hrange : WritesRange m.contentRange first last total) (hlt : last < total)
    (hlength : m.contentLength = last - first + 1) (hbound : m.contentLength < lengthBound) :
    fileStatus m = if first = 0 ∧ last + 1 = total then 200 else 206 := by
  have hsome : m.contentRange.isEmpty = false := String.isEmpty_eq_false_iff.2 hrange.ne_empty
  have htotal : rangeTotal? m.contentRange = some m.contentLength ↔
      first = 0 ∧ last + 1 = total := by
    rw [rangeTotal?_of_writesRange hrange]
    split
    · rw [Option.some_inj]
      omega
    · simp only [reduceCtorEq, false_iff]
      omega
  rw [fileStatus, hsome, if_neg Bool.false_ne_true]
  by_cases hwhole : first = 0 ∧ last + 1 = total
  · rw [if_pos (htotal.2 hwhole), if_pos hwhole]
  · rw [if_neg fun h => hwhole (htotal.1 h), if_neg hwhole]

/-! ## Answers -/

/-- A response tells what is known about a file, and whether it is the whole object.  Lengths are
those that can be written. -/
structure AnswersFile (f : FileAnswer) (response : Response) : Prop where
  headers : TellsFile f.metadata response.headers
  body : response.body = f.body.elim .empty .streaming
  unranged : f.metadata.contentRange = "" → response.status = 200
  ranged : ∀ first last total : Nat, WritesRange f.metadata.contentRange first last total →
    first ≤ last → last < total → f.metadata.contentLength = last - first + 1 →
    f.metadata.contentLength < lengthBound →
    response.status = if first = 0 ∧ last + 1 = total then 200 else 206

theorem fileResponse_answers (f : FileAnswer) (h : Sendable f.metadata) :
    AnswersFile f
      ⟨fileStatus f.metadata, fileHeaders f.metadata, f.body.elim .empty .streaming⟩ where
  headers := fileHeaders_tells h
  body := rfl
  unranged := fun hempty => by
    show fileStatus f.metadata = 200
    rw [fileStatus, hempty]
    rfl
  ranged := fun _ _ _ hrange _ hlt hlength hbound =>
    fileStatus_of_writesRange hrange hlt hlength hbound

/-- A responder makes a response of a file if all the texts that are known about it can stand in
headers.  The response tells each of them in a header of its own, and nothing else.  Of any other
file it makes none, and what was made before is left as it is. -/
theorem file_sent_or_refused (r : Responder) (f : FileAnswer) (slot : Responder.Slot) :
    (Sendable f.metadata → ∃ response, AnswersFile f response ∧
      ((r.handle (.sendFile f)).run slot : Flow TargetInterface (Answer Unit × Responder.Slot)) =
        .done (.ok (), response :: slot)) ∧
    (¬Sendable f.metadata →
      ((r.handle (.sendFile f)).run slot : Flow TargetInterface (Answer Unit × Responder.Slot)) =
        .done (.error (.internal "file headers"), slot)) := by
  constructor
  · intro h
    refine ⟨_, fileResponse_answers f h, ?_⟩
    have hresponse := fileResponse_eq f
    rw [if_pos h] at hresponse
    unfold Responder.handle
    simp only [hresponse]
    rfl
  · intro h
    have hresponse := fileResponse_eq f
    rw [if_neg h] at hresponse
    unfold Responder.handle
    simp only [hresponse]
    rfl

/-- A part of an object, and a type that would begin another header. -/
theorem file_sent_or_refused_docs :
    let r : Responder :=
      ⟨default, none, none, ⟨[], ⟨[], .const none⟩, ""⟩, .standard, ⟨[]⟩⟩
    let part : FileAnswer := ⟨some [.data [104, 101, 108, 108, 111]], { ObjectMetadata.empty with
      contentType := "text/plain"
      contentRange := "bytes 0-4/10"
      contentLength := 5 }⟩
    let broken : FileAnswer := ⟨none, { ObjectMetadata.empty with
      contentType := "text/plain\r\netag: 1" }⟩
    Sendable part.metadata ∧ WritesRange "bytes 0-4/10" 0 4 10 ∧
      (∃ response, response.status = 206 ∧
        response.headers.values "content-range" = [Text.Utf8.encode "bytes 0-4/10"] ∧
        ((r.handle (.sendFile part)).run [] : Flow TargetInterface (Answer Unit × Responder.Slot)) =
          .done (.ok (), [response])) ∧
      ¬Sendable broken.metadata ∧
      ((r.handle (.sendFile broken)).run [] : Flow TargetInterface (Answer Unit × Responder.Slot)) =
        .done (.error (.internal "file headers"), []) := by
  intro r part broken
  have hpart : Sendable part.metadata := by decide
  have hbroken : ¬Sendable broken.metadata := by decide
  have hrange : WritesRange "bytes 0-4/10" 0 4 10 :=
    @WritesRange.intro ['0'] ['4'] ['1', '0'] (by decide) (by decide) (by decide)
  obtain ⟨response, hanswers, hsent⟩ := (file_sent_or_refused r part []).1 hpart
  refine ⟨hpart, hrange, ⟨response, ?_, hanswers.headers.contentRange, hsent⟩, hbroken,
    (file_sent_or_refused r broken []).2 hbroken⟩
  exact hanswers.ranged 0 4 10 hrange (by decide) (by decide) rfl (by decide)

end ObjectGateway.Http
