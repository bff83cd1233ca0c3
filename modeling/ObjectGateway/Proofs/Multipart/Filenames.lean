import ObjectGateway.Proofs.Multipart.Form

/-!
# Names of parts and of files

A client puts the name of a part and that of its file between quotes, where all characters may stand
but a quote and the ends of lines.  The line is cut at its semicolons before its quotes are looked
at.  So both names arrive unchanged exactly where neither has a semicolon, and what is behind one is
read as parameters of its own: `readPutInput_encodeNamed`.
-/

namespace ObjectGateway.Multipart

/-- Whether a text can stand between quotes in a line. -/
def isQuotable (s : String) : Bool := s.toList.all fun c => !"\"\r\n".toList.contains c

theorem notMem_of_isQuotable {s : String} {c : Char} (h : isQuotable s = true)
    (hc : c ∈ "\"\r\n".toList) : c ∉ s.toList :=
  notMem_of_all h hc

/-- A part with a name and a filename, in either order, and with other lines around this line. -/
structure NamedPart where
  name : String
  filename : String
  filenameFirst : Bool
  before : List (List Char)
  after : List (List Char)
  data : Bytes
  name_quotable : isQuotable name = true
  filename_quotable : isQuotable filename = true
  lines_plain : ∀ line ∈ before ++ after, line ≠ [] ∧ '\r' ∉ line
  before_other : ∀ line ∈ before, startsIgnoringCase "content-disposition:" line = false

/-! ## Texts between quotes -/

/-- What is read of a text between quotes. -/
def held (s : String) : String := String.ofList (heldValue s.toList)

/-- The parameter of a name that is read behind a semicolon of a text between quotes. -/
def spilled? (s name : String) : Option String := parameter? (s.toList ++ ['"']) name

theorem held_eq_iff {s : String} (h : isQuotable s = true) : held s = s ↔ ';' ∉ s.toList := by
  rw [← String.toList_inj, held, String.toList_ofList, heldValue]
  constructor
  · intro hheld hsemicolon
    rw [if_pos hsemicolon] at hheld
    exact notMem_of_isQuotable h (by decide) (hheld ▸ List.mem_cons_self)
  · exact fun hplain => if_neg hplain

theorem spilled?_eq_none {s : String} (h : ';' ∉ s.toList) (name : String) :
    spilled? s name = none :=
  parameter?_eq_none (by simp [h]) name

namespace NamedPart

variable (p : NamedPart)

/-! ## The line of a part -/

/-- The parameters that tell what a part is. -/
def parameters : List (List Char × List Char) :=
  if p.filenameFirst then
    [("filename".toList, p.filename.toList), ("name".toList, p.name.toList)]
  else [("name".toList, p.name.toList), ("filename".toList, p.filename.toList)]

/-- The line that tells what a part is. -/
def disposition : List Char :=
  "Content-Disposition: form-data".toList ++
    p.parameters.flatMap fun q => ';' :: parameterText q.1 q.2

/-- The name that is read: a parameter of this name behind a semicolon of the filename counts where
the filename is first. -/
def readName : String :=
  if p.filenameFirst then (spilled? p.filename "name").getD (held p.name) else held p.name

/-- The filename that is read, in the same way. -/
def readFilename : String :=
  if p.filenameFirst then held p.filename
  else (spilled? p.name "filename").getD (held p.filename)

theorem mem_parameters {q : List Char × List Char} (hq : q ∈ p.parameters) :
    q = ("name".toList, p.name.toList) ∨ q = ("filename".toList, p.filename.toList) := by
  unfold parameters at hq
  split at hq
  · simpa [or_comm] using hq
  · simpa using hq

theorem parameter?_disposition (name : String) :
    parameter? p.disposition name = p.parameters.findSome? fun q =>
      if sameName q.1 name then some (String.ofList (heldValue q.2))
      else parameter? (q.2 ++ ['"']) name := by
  have hname : IsKey "name".toList ∧ ';' ∉ "name".toList := ⟨⟨by decide, by decide⟩, by decide⟩
  have hfilename : IsKey "filename".toList ∧ ';' ∉ "filename".toList :=
    ⟨⟨by decide, by decide⟩, by decide⟩
  refine parameter?_line (by decide) (fun q hq => ?_) name
  rcases p.mem_parameters hq with rfl | rfl
  · exact ⟨hname.1, hname.2, fun _ => notMem_of_isQuotable p.name_quotable (by decide)⟩
  · exact ⟨hfilename.1, hfilename.2,
      fun _ => notMem_of_isQuotable p.filename_quotable (by decide)⟩

theorem parameter?_name : parameter? p.disposition "name" = some p.readName := by
  have hname : sameName "name".toList "name" = true := by decide
  have hfilename : sameName "filename".toList "name" = false := by decide
  unfold readName
  rw [parameter?_disposition, parameters]
  split
  · simp only [List.findSome?_cons, hname, hfilename, Bool.false_eq_true, if_false, if_true]
    rw [← spilled?]
    cases spilled? p.filename "name" <;> rfl
  · simp only [List.findSome?_cons, hname, if_true, held]

theorem parameter?_filename : parameter? p.disposition "filename" = some p.readFilename := by
  have hname : sameName "name".toList "filename" = false := by decide
  have hfilename : sameName "filename".toList "filename" = true := by decide
  unfold readFilename
  rw [parameter?_disposition, parameters]
  split
  · simp only [List.findSome?_cons, hfilename, if_true, held]
  · simp only [List.findSome?_cons, hname, hfilename, Bool.false_eq_true, if_false, if_true]
    rw [← spilled?]
    cases spilled? p.name "filename" <;> rfl

/-- Both names are read as they are exactly where neither has a semicolon. -/
theorem read_unchanged_iff :
    p.readName = p.name ∧ p.readFilename = p.filename ↔
      ';' ∉ p.name.toList ∧ ';' ∉ p.filename.toList := by
  have hname := held_eq_iff p.name_quotable
  have hfilename := held_eq_iff p.filename_quotable
  unfold readName readFilename
  -- The first of the two is held in any case; without a semicolon in it, so is the second.
  split
  · rw [and_comm, hfilename, and_comm (a := ';' ∉ p.name.toList)]
    refine and_congr_right fun hplain => ?_
    rw [spilled?_eq_none hplain, Option.getD_none, hname]
  · rw [hname]
    refine and_congr_right fun hplain => ?_
    rw [spilled?_eq_none hplain, Option.getD_none, hfilename]

/-- A part of another name is read as one named `file`, since its filename spells this name. -/
example : (⟨"note", "a; name=file; b", true, [], [], [], by decide, by decide, by decide,
    by decide⟩ : NamedPart).readName = "file" := by decide

/-! ## Reading a part -/

/-- The type that the other lines of a part declare. -/
def contentType : String := ((p.before ++ p.after).findSome? contentTypeOf?).getD ""

/-- A part as an upload, under the filename that is read. -/
def upload : Upload := ⟨p.readFilename, p.contentType, p.data⟩

/-- A part as an upload, under its filename. -/
def sentUpload : Upload := ⟨p.filename, p.contentType, p.data⟩

theorem disposition_plain : p.disposition ≠ [] ∧ '\r' ∉ p.disposition := by
  have hstart : "Content-Disposition: form-data".toList ≠ [] ∧
      '\r' ∉ "Content-Disposition: form-data".toList := by decide
  refine ⟨List.append_ne_nil_of_left_ne_nil hstart.1 _, fun hmem => ?_⟩
  obtain ⟨q, hq, hchar⟩ := List.mem_flatMap.1 ((List.mem_append.1 hmem).resolve_left hstart.2)
  have hname : '\r' ∉ p.name.toList := notMem_of_isQuotable p.name_quotable (by decide)
  have hfilename : '\r' ∉ p.filename.toList := notMem_of_isQuotable p.filename_quotable (by decide)
  rcases p.mem_parameters hq with rfl | rfl
  · simp [parameterText, hname] at hchar
  · simp [parameterText, hfilename] at hchar

/-- A part as it is sent. -/
def toHeaded : HeadedPart where
  lines := p.before ++ p.disposition :: p.after
  data := p.data
  lines_ne := List.append_ne_nil_of_right_ne_nil _ (List.cons_ne_nil _ _)
  lines_plain := by
    intro line hline
    rcases List.mem_append.1 hline with hline | hline
    · exact p.lines_plain line (List.mem_append_left _ hline)
    rcases List.mem_cons.1 hline with rfl | hline
    · exact p.disposition_plain
    · exact p.lines_plain line (List.mem_append_right _ hline)

theorem disposition?_lines : disposition? p.toHeaded.lines = some p.disposition := by
  have hstart : startsIgnoringCase "content-disposition:" p.disposition = true :=
    startsIgnoringCase_disposition _
  have hbefore : p.before.find? (startsIgnoringCase "content-disposition:") = none :=
    List.find?_eq_none.2 fun line hline => by simp [p.before_other line hline]
  rw [toHeaded, disposition?, List.find?_append, hbefore, List.find?_cons, hstart, Option.none_or]

theorem contentTypeOf?_lines :
    (p.toHeaded.lines.findSome? contentTypeOf?).getD "" = p.contentType := by
  have hdisposition : contentTypeOf? p.disposition = none := contentTypeOf?_disposition _
  rw [toHeaded, contentType, List.findSome?_append, List.findSome?_cons, hdisposition,
    List.findSome?_append]

theorem upload?_toHeaded :
    p.toHeaded.upload? = if p.readName = "file" then some p.upload else none := by
  simp only [HeadedPart.upload?, disposition?_lines, Option.bind_eq_bind, Option.bind_some,
    parameter?_name, parameter?_filename, contentTypeOf?_lines, Option.some.injEq,
    Option.getD_some, upload]
  rfl

end NamedPart

/-! ## Reading a form -/

/-- The body of a form of such parts. -/
def encodeNamed (b : Boundary) (ps : List NamedPart) : Bytes :=
  body (delimiter b.text) (ps.map (·.toHeaded.encode))

/-- What an upload asks for, if there is one. -/
def uploadInput (path : String) : Option Upload → Answer PutInput
  | some u => .ok ⟨path, u.filename, u.contentType, u.data.length, u.data⟩
  | none => .error (.badRequest "missing file field in multipart form data")

/-- Where no text between quotes has a semicolon, the parts are read as they are. -/
theorem find?_of_plain {ps : List NamedPart}
    (h : ∀ p ∈ ps, ';' ∉ p.name.toList ∧ ';' ∉ p.filename.toList) :
    (ps.find? (·.readName = "file")).map (·.upload) =
      (ps.find? (·.name = "file")).map (·.sentUpload) := by
  induction ps with
  | nil => rfl
  | cons p ps ih =>
    have hrest := ih fun q hq => h q (List.mem_cons_of_mem p hq)
    obtain ⟨hname, hfilename⟩ := p.read_unchanged_iff.2 (h p List.mem_cons_self)
    rw [List.find?_cons, List.find?_cons, hname]
    cases decide (p.name = "file") with
    | true => rw [Option.map_some, Option.map_some, NamedPart.upload, hfilename,
        NamedPart.sentUpload]
    | false => exact hrest

end ObjectGateway.Multipart

namespace ObjectGateway.Http

open Multipart

/-- How the names of a form arrive.  The name and the filename of a part are read in both orders,
and both are read as they are exactly where neither has a semicolon.  The upload of a form is its
first part that is read as one named `file`, under the filename that is read; so where there is no
semicolon it is the first part named `file`, under its filename, and the form is refused exactly
where no part has this name. -/
theorem readPutInput_encodeNamed {b : Boundary} {value : String} {hs : Headers}
    {ps : List NamedPart} (hdeclared : b.Declared value)
    (hheader : hs.get? "content-type" = some (Text.Utf8.encode value))
    (havoid : ∀ p ∈ ps, p.toHeaded.Avoids (delimiter b.text)) (path : String) :
    (∀ p : NamedPart, parameter? p.disposition "name" = some p.readName ∧
      parameter? p.disposition "filename" = some p.readFilename ∧
      (p.readName = p.name ∧ p.readFilename = p.filename ↔
        ';' ∉ p.name.toList ∧ ';' ∉ p.filename.toList)) ∧
    readPutInput path hs (encodeNamed b ps) =
      uploadInput path ((ps.find? (·.readName = "file")).map (·.upload)) ∧
    ((∀ p ∈ ps, ';' ∉ p.name.toList ∧ ';' ∉ p.filename.toList) →
      readPutInput path hs (encodeNamed b ps) =
        uploadInput path ((ps.find? (·.name = "file")).map (·.sentUpload))) := by
  have hread : readPutInput path hs (encodeNamed b ps) =
      uploadInput path ((ps.find? (·.readName = "file")).map (·.upload)) := by
    rw [readPutInput_of_declared hdeclared hheader, encodeNamed,
      readUpload_body NamedPart.upload?_toHeaded havoid]
    cases (ps.find? (·.readName = "file")).map (·.upload) <;> rfl
  refine ⟨fun p => ⟨p.parameter?_name, p.parameter?_filename, p.read_unchanged_iff⟩, hread, ?_⟩
  intro hplain
  rw [hread, find?_of_plain hplain]

/-- Filenames that look like parameters, in a part that is not named `file` and in one that is. -/
theorem readPutInput_encodeNamed_docs :
    let b : Boundary := ⟨"XX", by decide, by decide, by decide, by decide⟩
    let note : NamedPart := ⟨"note", "name=file", false, [], ["X: filename=y".toList], [110],
      by decide, by decide, by decide, by decide⟩
    let file : NamedPart := ⟨"file", " ü, name=a=b'.txt", true, ["Content-Type: text/plain".toList],
      [], [104, 105], by decide, by decide, by decide, by decide⟩
    let hs : Headers := [⟨"content-type", Text.Utf8.encode "multipart/form-data; boundary=XX"⟩]
    readPutInput "/docs" hs (encodeNamed b [note, file]) =
      .ok ⟨"/docs", " ü, name=a=b'.txt", "text/plain", 2, [104, 105]⟩ := by
  intro b note file hs
  have havoid : ∀ p ∈ [note, file], p.toHeaded.Avoids (delimiter b.text) := by
    decide +kernel
  have hplain : ∀ p ∈ [note, file], ';' ∉ p.name.toList ∧ ';' ∉ p.filename.toList := by decide
  exact (readPutInput_encodeNamed (b := b) (.bare (by decide)) rfl havoid "/docs").2.2 hplain

/-- A filename with a semicolon does not arrive as it is. -/
theorem filename_cut_at_semicolon :
    ¬∀ p : NamedPart, parameter? p.disposition "name" = some p.name ∧
      parameter? p.disposition "filename" = some p.filename := by
  intro h
  have hfile := (h ⟨"file", "a;b.txt", false, [], [], [], by decide, by decide, by decide,
    by decide⟩).2
  exact absurd hfile (by decide)

end ObjectGateway.Http
