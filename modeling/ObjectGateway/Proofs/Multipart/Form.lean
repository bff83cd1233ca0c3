import ObjectGateway.Http.Input
import ObjectGateway.Proofs.Multipart.Boundary
import ObjectGateway.Proofs.Multipart.Lines

/-!
# Forms that clients send

The bodies that clients build for forms, part by part.  `Http.readPutInput_encodeForm` says that the
upload of a form is its first part named `file`, as the client put it in, whatever the octets of its
content are.
-/

namespace ObjectGateway.Multipart

/-! ## Parts as they are sent -/

/-- A part as it is sent: the lines that head it, and its content. -/
structure HeadedPart where
  lines : List (List Char)
  data : Bytes
  lines_ne : lines ≠ []
  lines_plain : ∀ line ∈ lines, line ≠ [] ∧ '\r' ∉ line

namespace HeadedPart

/-- The octets of a part: its lines, an empty line and its content. -/
def encode (p : HeadedPart) : Bytes := encodeLines p.lines ++ lineBreak ++ p.data

/-- A delimiter occurs neither in the lines of a part nor in its content. -/
def Avoids (p : HeadedPart) (d : Bytes) : Prop :=
  (∀ line ∈ p.lines, ¬d <:+: Text.Utf8.encodeList line) ∧ ¬d <:+: p.data

instance (p : HeadedPart) (d : Bytes) : Decidable (p.Avoids d) :=
  inferInstanceAs (Decidable (_ ∧ _))

/-- The upload that a part holds, by its lines. -/
def upload? (p : HeadedPart) : Option Upload := do
  let line ← disposition? p.lines
  if parameter? line "name" = some "file" then
    some {
      filename := (parameter? line "filename").getD ""
      contentType := (p.lines.findSome? contentTypeOf?).getD ""
      data := p.data }
  else none

variable (p : HeadedPart)

/-- The upload of a part is read from what the part holds, wherever it lies. -/
theorem upload?_of_content {part : Part} {body : Bytes} (h : part.content body = p.encode) :
    part.upload? body = p.upload? := by
  obtain ⟨line, more, hmore⟩ := List.exists_cons_of_ne_nil p.lines_ne
  have hplain : ∀ l ∈ line :: more, l ≠ [] ∧ '\r' ∉ l := by
    rw [← hmore]
    exact p.lines_plain
  let text := line ++ more.flatMap ('\r' :: '\n' :: ·)
  have hfind : find? (lineBreak ++ lineBreak) p.encode =
      some (Text.Utf8.encodeList text).length := by
    rw [encode, hmore]
    exact find?_encodeLines hplain p.data
  have hencode : p.encode = Text.Utf8.encodeList text ++ (lineBreak ++ lineBreak ++ p.data) := by
    rw [encode, hmore, encodeLines_eq]
    simp only [List.append_assoc, text]
  -- The lines end where the first empty line is, even if the content has empty lines as well.
  have htake : p.encode.take (Text.Utf8.encodeList text).length = Text.Utf8.encodeList text := by
    rw [hencode, List.take_left]
  have hdrop : p.encode.drop ((Text.Utf8.encodeList text).length + 4) = p.data := by
    rw [hencode, ← List.drop_drop, List.drop_left]
    rfl
  have hlines : splitLines text = p.lines := by
    rw [hmore]
    exact splitLines_flatMap (hplain _ List.mem_cons_self).2
      fun l hl => (hplain l (List.mem_cons_of_mem _ hl)).2
  simp only [Part.upload?, h, hfind, Option.bind_eq_bind, Option.bind_some, htake, hdrop,
    Text.Utf8.decodeLossy_encodeList, String.toList_ofList, hlines, upload?]

theorem encode_ne_nil : p.encode ≠ [] := by
  rw [encode, List.append_assoc]
  exact List.append_ne_nil_of_right_ne_nil _ (List.cons_ne_nil _ _)

theorem not_infix_encode {d : Bytes} (hd : IsSolid d) (h : p.Avoids d) : ¬d <:+: p.encode := by
  rw [encode, List.append_assoc]
  exact not_infix_encodeLines hd h.1 (not_infix_append_lineBreak (a := []) hd hd.not_infix_nil h.2)

end HeadedPart

section Uploads

variable {α : Type} {toHeaded : α → HeadedPart} {IsFile : α → Prop} [DecidablePred IsFile]
  {upload : α → Upload}

/-- The first part that is a file is the upload. -/
theorem findSome?_upload? {body : Bytes} {parts : List Part} {ps : List α}
    (hupload : ∀ p, (toHeaded p).upload? = if IsFile p then some (upload p) else none)
    (h : parts.map (·.content body) = ps.map fun p => (toHeaded p).encode) :
    parts.findSome? (·.upload? body) = (ps.find? (IsFile ·)).map upload := by
  induction ps generalizing parts with
  | nil =>
    rw [List.map_eq_nil_iff.1 h]
    rfl
  | cons p ps ih =>
    obtain ⟨part, rest, rfl, hpart, hrest⟩ := List.map_eq_cons_iff.1 h
    rw [List.findSome?_cons, (toHeaded p).upload?_of_content hpart, hupload, List.find?_cons]
    by_cases hfile : IsFile p
    · simp [hfile]
    · simp [hfile, ih hrest]

theorem readUpload_body {b : Boundary} {ps : List α}
    (hupload : ∀ p, (toHeaded p).upload? = if IsFile p then some (upload p) else none)
    (havoid : ∀ p ∈ ps, (toHeaded p).Avoids (delimiter b.text)) :
    readUpload (body (delimiter b.text) (ps.map fun p => (toHeaded p).encode)) b.text =
      match (ps.find? (IsFile ·)).map upload with
      | some u => .ok u
      | none => .error (.badRequest "missing file field in multipart form data") := by
  have hcontents : ∀ content ∈ ps.map fun p => (toHeaded p).encode,
      content ≠ [] ∧ ¬delimiter b.text <:+: content := by
    intro content hcontent
    obtain ⟨p, hp, rfl⟩ := List.mem_map.1 hcontent
    exact ⟨(toHeaded p).encode_ne_nil, (toHeaded p).not_infix_encode b.isSolid (havoid p hp)⟩
  have hfound := findSome?_upload? hupload (contents_parts b.isSolid hcontents)
  cases hfirst : (ps.find? (IsFile ·)).map upload with
  | none => rw [readUpload, hfound, hfirst]
  | some u => rw [readUpload, hfound, hfirst]

end Uploads

/-! ## Parts of a form -/

/-- Whether no character of a text ends a line, a parameter or the value of one. -/
def isPlain (s : String) : Bool := s.toList.all fun c => !"\";\r\n".toList.contains c

theorem notMem_of_all {s ends : String} {c : Char}
    (h : (s.toList.all fun c => !ends.toList.contains c) = true) (hc : c ∈ ends.toList) :
    c ∉ s.toList := fun hmem => by
  have hother := List.all_eq_true.1 h c hmem
  rw [List.contains_iff_mem.2 hc] at hother
  cases hother

theorem notMem_of_isPlain {s : String} {c : Char} (h : isPlain s = true)
    (hc : c ∈ "\";\r\n".toList) : c ∉ s.toList :=
  notMem_of_all h hc

/-- A part of a form. -/
structure FormPart where
  name : String
  filename : Option String
  contentType : Option String
  data : Bytes
  name_plain : isPlain name = true
  filename_plain : ∀ f ∈ filename, isPlain f = true
  contentType_plain : ∀ t ∈ contentType, isPlain t = true
  contentType_trimmed : ∀ t ∈ contentType, Text.trim t = t

namespace FormPart

/-- The parameters that tell what a part is. -/
def parameters (p : FormPart) : List (List Char × List Char) :=
  ("name".toList, p.name.toList) ::
    p.filename.toList.map fun f => ("filename".toList, f.toList)

/-- The line that tells what a part is. -/
def disposition (p : FormPart) : List Char :=
  "Content-Disposition: form-data".toList ++
    p.parameters.flatMap fun q => ';' :: parameterText q.1 q.2

/-- The lines behind it, of which there is one at most. -/
def typeLines (p : FormPart) : List (List Char) :=
  p.contentType.toList.map fun t => "Content-Type: ".toList ++ t.toList

/-- The octets of a part: its lines, an empty line and its content. -/
def encode (p : FormPart) : Bytes :=
  encodeLines (p.disposition :: p.typeLines) ++ lineBreak ++ p.data

/-- A delimiter occurs neither in the lines of a part nor in its content. -/
def Avoids (p : FormPart) (d : Bytes) : Prop :=
  (∀ line ∈ p.disposition :: p.typeLines, ¬d <:+: Text.Utf8.encodeList line) ∧ ¬d <:+: p.data

instance (p : FormPart) (d : Bytes) : Decidable (p.Avoids d) :=
  inferInstanceAs (Decidable (_ ∧ _))

end FormPart

/-- The body of a form. -/
def encodeForm (b : Boundary) (ps : List FormPart) : Bytes :=
  body (delimiter b.text) (ps.map (·.encode))

/-! ## Reading a part -/

namespace FormPart

variable (p : FormPart)

theorem isKey_parameters : ∀ q ∈ p.parameters, IsKey q.1 := by
  have hname : IsKey "name".toList := ⟨by decide, by decide⟩
  have hfilename : IsKey "filename".toList := ⟨by decide, by decide⟩
  intro q hq
  rcases List.mem_cons.1 hq with rfl | hq
  · exact hname
  · obtain ⟨f, hf, rfl⟩ := List.mem_map.1 hq
    exact hfilename

theorem notMem_parameters {c : Char} (hc : c = ';' ∨ c = '\r') :
    ∀ q ∈ p.parameters, c ∉ q.1 ∧ c ∉ q.2 := by
  have hkeys : c ∉ "name".toList ∧ c ∉ "filename".toList := by
    rcases hc with rfl | rfl <;> decide
  have hends : c ∈ "\";\r\n".toList := by
    rcases hc with rfl | rfl <;> decide
  intro q hq
  rcases List.mem_cons.1 hq with rfl | hq
  · exact ⟨hkeys.1, notMem_of_isPlain p.name_plain hends⟩
  · obtain ⟨f, hf, rfl⟩ := List.mem_map.1 hq
    exact ⟨hkeys.2, notMem_of_isPlain (p.filename_plain f (Option.mem_toList.1 hf)) hends⟩

theorem parameter?_disposition (name : String) :
    parameter? p.disposition name =
      (p.parameters.find? fun q => sameName q.1 name).map fun q => String.ofList q.2 :=
  parameter?_eq (by decide)
    (fun q hq => ⟨p.isKey_parameters q hq, p.notMem_parameters (.inl rfl) q hq⟩) name

theorem parameter?_name : parameter? p.disposition "name" = some p.name := by
  have hsame : sameName "name".toList "name" = true := by decide
  rw [parameter?_disposition, parameters, List.find?_cons, hsame]
  exact congrArg some String.ofList_toList

theorem parameter?_filename : parameter? p.disposition "filename" = p.filename := by
  have hname : sameName "name".toList "filename" = false := by decide
  have hfilename : sameName "filename".toList "filename" = true := by decide
  rw [parameter?_disposition, parameters, List.find?_cons, hname]
  cases p.filename with
  | none => rfl
  | some f =>
    simp only [Option.toList_some, List.map_cons, List.map_nil, List.find?_cons, hfilename,
      Option.map_some, String.ofList_toList]

theorem disposition?_lines : disposition? (p.disposition :: p.typeLines) = some p.disposition := by
  have hstart : startsIgnoringCase "content-disposition:" p.disposition = true :=
    startsIgnoringCase_disposition _
  rw [disposition?, List.find?_cons, hstart]

theorem contentTypeOf?_lines :
    (p.disposition :: p.typeLines).findSome? contentTypeOf? = p.contentType := by
  have hfirst : contentTypeOf? p.disposition = none := contentTypeOf?_disposition _
  rw [List.findSome?_cons, hfirst, typeLines]
  cases htype : p.contentType with
  | none => rfl
  | some t =>
    have hname : sameName (trim "Content-Type".toList) "content-type" = true := by decide
    have hcolon : ':' ∉ "Content-Type".toList := by decide
    have hline : contentTypeOf? ("Content-Type: ".toList ++ t.toList) = _ :=
      contentTypeOf?_append hcolon (' ' :: t.toList)
    have htrim : String.ofList (trim (' ' :: t.toList)) = t := by
      rw [trim, Text.trimList_cons (by decide)]
      exact p.contentType_trimmed t htype
    rw [hname, if_pos rfl, htrim] at hline
    rw [Option.toList_some, List.map_singleton, List.findSome?_cons, hline]

theorem lines_plain :
    ∀ line ∈ p.disposition :: p.typeLines, line ≠ [] ∧ '\r' ∉ line := by
  have hdisposition : "Content-Disposition: form-data".toList ≠ [] ∧
      '\r' ∉ "Content-Disposition: form-data".toList := by decide
  have htype : "Content-Type: ".toList ≠ [] ∧ '\r' ∉ "Content-Type: ".toList := by decide
  intro line hline
  rcases List.mem_cons.1 hline with rfl | hline
  · refine ⟨List.append_ne_nil_of_left_ne_nil hdisposition.1 _, fun hmem => ?_⟩
    obtain ⟨q, hq, hchar⟩ :=
      List.mem_flatMap.1 ((List.mem_append.1 hmem).resolve_left hdisposition.2)
    obtain ⟨hkey, hvalue⟩ := p.notMem_parameters (.inr rfl) q hq
    simp [parameterText, hkey, hvalue] at hchar
  · obtain ⟨t, ht, rfl⟩ := List.mem_map.1 hline
    have hplain := p.contentType_plain t (Option.mem_toList.1 ht)
    exact ⟨List.append_ne_nil_of_left_ne_nil htype.1 _, fun hmem =>
      (List.mem_append.1 hmem).elim htype.2 (notMem_of_isPlain hplain (by decide))⟩

/-- A part as an upload; what it does not declare is empty. -/
def upload (p : FormPart) : Upload := ⟨p.filename.getD "", p.contentType.getD "", p.data⟩

/-- A part as it is sent. -/
def toHeaded (p : FormPart) : HeadedPart where
  lines := p.disposition :: p.typeLines
  data := p.data
  lines_ne := List.cons_ne_nil _ _
  lines_plain := p.lines_plain

theorem upload?_toHeaded :
    p.toHeaded.upload? = if p.name = "file" then some p.upload else none := by
  simp only [toHeaded, HeadedPart.upload?, disposition?_lines, Option.bind_eq_bind,
    Option.bind_some, parameter?_name, parameter?_filename, contentTypeOf?_lines,
    Option.some.injEq, upload]

end FormPart

/-! ## Reading a form -/

/-- The first part that is named `file` is the upload. -/
theorem readUpload_encodeForm {b : Boundary} {ps : List FormPart}
    (h : ∀ p ∈ ps, p.Avoids (delimiter b.text)) :
    readUpload (encodeForm b ps) b.text =
      match ps.find? (·.name = "file") with
      | some p => .ok p.upload
      | none => .error (.badRequest "missing file field in multipart form data") := by
  have havoid : ∀ p ∈ ps, p.toHeaded.Avoids (delimiter b.text) := h
  refine (readUpload_body FormPart.upload?_toHeaded havoid).trans ?_
  cases ps.find? (·.name = "file") <;> rfl

end ObjectGateway.Multipart

namespace ObjectGateway.Http

open Multipart

/-- An upload is read from the body by the boundary that the content type declares. -/
theorem readPutInput_of_declared {b : Boundary} {value : String} {hs : Headers}
    (hdeclared : b.Declared value)
    (hheader : hs.get? "content-type" = some (Text.Utf8.encode value)) (path : String)
    (body : Bytes) :
    readPutInput path hs body = (readUpload body b.text).bind fun u =>
      .ok ⟨path, u.filename, u.contentType, u.data.length, u.data⟩ := by
  have htext : hs.text? "content-type" = some value := by
    rw [Headers.text?, hheader, Option.bind_some, valueText?_encode hdeclared.printed]
  rw [readPutInput, htext, Option.getD_some, readBoundary_of_declared hdeclared]
  rfl

/-- A form with a content type that declares its boundary is read as its first part named `file`:
its filename and its type, or nothing where it has none, and its content as it is.  It is refused if
and only if no part has this name. -/
theorem readPutInput_encodeForm {b : Boundary} {value : String} {hs : Headers} {ps : List FormPart}
    (hdeclared : b.Declared value)
    (hheader : hs.get? "content-type" = some (Text.Utf8.encode value))
    (havoid : ∀ p ∈ ps, p.Avoids (delimiter b.text)) (path : String) :
    (∀ p, ps.find? (·.name = "file") = some p →
      readPutInput path hs (encodeForm b ps) =
        .ok ⟨path, p.filename.getD "", p.contentType.getD "", p.data.length, p.data⟩) ∧
    ((∃ message, readPutInput path hs (encodeForm b ps) = .error (.badRequest message)) ↔
      ∀ p ∈ ps, p.name ≠ "file") := by
  rw [readPutInput_of_declared hdeclared hheader, readUpload_encodeForm havoid]
  constructor
  · intro p hp
    rw [hp]
    rfl
  · cases hfind : ps.find? (·.name = "file") with
    | none =>
      have hnone : ∀ p ∈ ps, p.name ≠ "file" := by simpa using hfind
      exact iff_of_true ⟨_, rfl⟩ hnone
    | some p =>
      have hname : p.name = "file" := by simpa using List.find?_some hfind
      refine iff_of_false ?_ fun hnone => hnone p (List.mem_of_find?_eq_some hfind) hname
      rintro ⟨message, ⟨⟩⟩

/-- A form with a field before its file, whose content begins like a delimiter and ends with a line
break. -/
theorem readPutInput_encodeForm_docs :
    let b : Boundary := ⟨"a b", by decide, by decide, by decide, by decide⟩
    let note : FormPart := ⟨"note", none, none, Text.Utf8.encode "name=\"file\"",
      by decide, by decide, by decide, by decide⟩
    let file : FormPart := ⟨"file", some "ü.txt", some "text/plain", [45, 45, 97, 0, 255, 13, 10],
      by decide, by decide, by decide, by decide⟩
    let hs : Headers :=
      [⟨"content-type", Text.Utf8.encode "multipart/form-data; boundary=\"a b\""⟩]
    readPutInput "/docs/a" hs (encodeForm b [note, file]) =
      .ok ⟨"/docs/a", "ü.txt", "text/plain", 7, [45, 45, 97, 0, 255, 13, 10]⟩ := by
  intro b note file hs
  exact (readPutInput_encodeForm (b := b) .quoted rfl (by decide) "/docs/a").1 file rfl

end ObjectGateway.Http
