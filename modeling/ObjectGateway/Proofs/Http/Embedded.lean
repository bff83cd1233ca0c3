import ObjectGateway.Proofs.Http.Pieces
import ObjectGateway.Proofs.Template.Rendering
import ObjectGateway.Proofs.Template.Tokens

/-!
# The embedded pages

An embedded template is read as statements, and these render the pieces of its page with what they
print escaped.  So whoever chooses keys, addresses or messages adds no markup to a page:
`embedded_page_filled`.
-/

namespace ObjectGateway.Http

open ObjectGateway.Flow
open Template
open Template.Exec

variable {r : Responder} {c : Caller} {m : Machine} {s : Setting} {e : Entry}

/-! ## Reading the templates -/

theorem read_failureTemplate {headline : String} (h : '{' ∉ headline.toList) :
    Template.read ("\n" ++ Page.failureTemplate headline) =
      .ok [.text ("\n" ++ failureTop headline), .emit (.var "error"),
        .text "</p>\n  </body>\n</html>"] := by
  have hplain : '{' ∉ ("\n" ++ failureTop headline).toList := by
    unfold failureTop
    simp [h]
  have htag : TagReads false "\x7b\x7b error \x7d\x7d"
      [.valueStart, .ident "error", .valueEnd] :=
    .value String.toList_ofList (by decide) fun _ => rfl
  have hreads := htag.behind (by simp) hplain nofun
  have hsource : "\n" ++ Page.failureTemplate headline =
      ("\n" ++ failureTop headline) ++ "\x7b\x7b error \x7d\x7d" ++ "</p>\n  </body>\n</html>" ++
        "\n" := by
    rw [← sourceOf_failurePieces headline ""]
    simp [failurePieces, Piece.source, String.append_assoc]
  rw [hsource]
  exact read_eq_of_tokens (read_eq_of_reads hreads (by decide) (by decide) (by decide)) rfl

theorem read_notFoundTemplate :
    Template.read ("\n" ++ Page.notFoundTemplate) =
      .ok [.text ("\n" ++ notFoundTop), .emit (.attr (.var "request") "path"),
        .text "</h1>\n  </body>\n</html>"] := by
  have htag : TagReads false "\x7b\x7b request.path \x7d\x7d"
      [.valueStart, .ident "request", .sign .dot, .ident "path", .valueEnd] :=
    .value String.toList_ofList (by decide) fun _ => rfl
  have hreads : Reads ("\n" ++ notFoundTop ++ "\x7b\x7b request.path \x7d\x7d") _ :=
    htag.behind (by decide) (by decide) nofun
  have hsource : "\n" ++ Page.notFoundTemplate = "\n" ++ notFoundTop ++
      "\x7b\x7b request.path \x7d\x7d" ++ "</h1>\n  </body>\n</html>" ++ "\n" := by
    rw [← sourceOf_notFoundPieces ""]
    simp [notFoundPieces, Piece.source, String.append_assoc]
  rw [hsource]
  exact read_eq_of_tokens (read_eq_of_reads hreads (by decide) (by decide) (by decide)) rfl

/-- The statement of the size of an entry. -/
def sizeStmt : Stmt :=
  .ifElse (.binary .eq (.attr (.var "entry") "type") (.lit (.str "FOLDER"))) [.text "-"]
    [.emit (.filter "human_size" (.attr (.var "entry") "size") [])]

/-- The statements of a row. -/
def rowStmts : List Stmt :=
  [.text "\n        <tr>\n          <td><a href=\"",
    .emit (.attr (.var "entry") "path"),
    .text "\">",
    .emit (.attr (.var "entry") "name"),
    .text "</a></td>\n          <td>",
    sizeStmt,
    .text "</td>\n          <td>",
    .emit (.binary .or (.attr (.var "entry") "lastModified") (.lit (.str "-"))),
    .text "</td>\n        </tr>"]

/-- The tokens of a row, and the tag behind it. -/
def rowTokens : List Token :=
  [.data "\n        <tr>\n          <td><a href=\"",
    .valueStart, .ident "entry", .sign .dot, .ident "path", .valueEnd,
    .data "\">",
    .valueStart, .ident "entry", .sign .dot, .ident "name", .valueEnd,
    .data "</a></td>\n          <td>",
    .blockStart, .ident "if", .ident "entry", .sign .dot, .ident "type", .sign .eq, .str "FOLDER",
    .blockEnd,
    .data "-",
    .blockStart, .ident "else", .blockEnd,
    .valueStart, .ident "entry", .sign .dot, .ident "size", .sign .bar, .ident "human_size",
    .valueEnd,
    .blockStart, .ident "endif", .blockEnd,
    .data "</td>\n          <td>",
    .valueStart, .ident "entry", .sign .dot, .ident "lastModified", .ident "or", .str "-",
    .valueEnd,
    .data "</td>\n        </tr>",
    .blockStart, .ident "endfor", .blockEnd]

/-- A line break, and the blanks before a tag on a line of its own. -/
def margin : List Char := ['\n', ' ', ' ', ' ', ' ', ' ', ' ', ' ', ' ']

theorem reads_row :
    Reads (rowSource ++ "\n        \x7b%- endfor %\x7d") rowTokens := by
  have path : TagReads false "\x7b\x7b entry.path \x7d\x7d"
      [.valueStart, .ident "entry", .sign .dot, .ident "path", .valueEnd] :=
    .value String.toList_ofList (by decide) fun _ => rfl
  have name : TagReads false "\x7b\x7b entry.name \x7d\x7d"
      [.valueStart, .ident "entry", .sign .dot, .ident "name", .valueEnd] :=
    .value String.toList_ofList (by decide) fun _ => rfl
  have folder : TagReads false "\x7b% if entry.type == \"FOLDER\" %\x7d"
      [.blockStart, .ident "if", .ident "entry", .sign .dot, .ident "type", .sign .eq,
        .str "FOLDER", .blockEnd] :=
    .block String.toList_ofList (by decide) (fun _ => rfl) fun _ => rfl
  have file : TagReads false "\x7b% else %\x7d" [.blockStart, .ident "else", .blockEnd] :=
    .block String.toList_ofList (by decide) (fun _ => rfl) fun _ => rfl
  have size : TagReads false "\x7b\x7b entry.size | human_size \x7d\x7d"
      [.valueStart, .ident "entry", .sign .dot, .ident "size", .sign .bar, .ident "human_size",
        .valueEnd] :=
    .value String.toList_ofList (by decide) fun _ => rfl
  have endif : TagReads false "\x7b% endif %\x7d" [.blockStart, .ident "endif", .blockEnd] :=
    .block String.toList_ofList (by decide) (fun _ => rfl) fun _ => rfl
  have modified : TagReads false "\x7b\x7b entry.lastModified or \"-\" \x7d\x7d"
      [.valueStart, .ident "entry", .sign .dot, .ident "lastModified", .ident "or", .str "-",
        .valueEnd] :=
    .value String.toList_ofList (by decide) fun _ => rfl
  have endfor : TagReads true "\n        \x7b%- endfor %\x7d"
      [.blockStart, .ident "endfor", .blockEnd] :=
    .trimmed margin String.toList_ofList (by decide) (by decide)
      (fun _ => rfl) fun _ => rfl
  unfold rowSource
  rw [String.append_assoc]
  exact ((((((((path.behind (by decide) (by decide) nofun).append
    (name.behind (by decide) (by decide) nofun)).append
    (folder.behind (by decide) (by decide) nofun)).append
    (file.behind (by decide) (by decide) nofun)).append size.bare).append
    endif.bare).append (modified.behind (by decide) (by decide) nofun)).append
    (endfor.behind (by decide) (by decide) fun _ => by decide))

/-- The statements of the page of a listing, with the texts around its tags. -/
def listStmts (top table bottom : String) : List Stmt :=
  [.text top, .emit (.var "path"), .text table,
    .forLoop (.name "entry") (.var "entries") (.lit (.bool true)) false rowStmts [],
    .text bottom]

theorem read_folderListTemplate :
    Template.read ("\n" ++ Page.folderListTemplate) =
      .ok (listStmts ("\n" ++ listTop) tableTop tableBottom) := by
  have path : TagReads false "\x7b\x7b path \x7d\x7d" [.valueStart, .ident "path", .valueEnd] :=
    .value String.toList_ofList (by decide) fun _ => rfl
  have rows : TagReads true "\n        \x7b%- for entry in entries %\x7d"
      [.blockStart, .ident "for", .ident "entry", .ident "in", .ident "entries", .blockEnd] :=
    .trimmed margin String.toList_ofList (by decide) (by decide)
      (fun _ => rfl) fun _ => rfl
  have htable : '{' ∉ tableTop.toList ∧ tableTop.toList.getLast? = some '>' := by
    unfold tableTop
    simp only [String.toList_append]
    repeat rewrite [String.toList_ofList]
    decide +kernel
  have hlast : tableTop.toList.getLast?.any Text.isBlank = false := by
    rw [htable.2]
    decide
  have hreads := ((path.behind (t := "\n" ++ listTop) (by decide) (by decide) nofun).append
    (rows.behind (by decide) htable.1 fun _ => hlast)).append reads_row
  have hsource : "\n" ++ Page.folderListTemplate =
      (("\n" ++ listTop) ++ "\x7b\x7b path \x7d\x7d") ++
        (tableTop ++ "\n        \x7b%- for entry in entries %\x7d") ++
        (rowSource ++ "\n        \x7b%- endfor %\x7d") ++ tableBottom ++ "\n" := by
    rw [← sourceOf_list ""]
    simp [listHead, listFoot, Piece.source, String.append_assoc]
  have hparse (top table bottom : String) : Reader.template
      ([.data top, .valueStart, .ident "path", .valueEnd] ++
        [.data table, .blockStart, .ident "for", .ident "entry", .ident "in", .ident "entries",
          .blockEnd] ++ rowTokens ++ [.data bottom]) = some (listStmts top table bottom) := rfl
  rw [hsource]
  exact read_eq_of_tokens (read_eq_of_reads hreads (by decide) (by decide) (by decide))
    (hparse _ _ _)

/-! ## Rendering them -/

/-- What the statements of a template are carried out with to render markup. -/
def settingOf (values : Json) (stmts : List Stmt) : Setting :=
  ⟨.ofJson values, true, blocksOf stmts⟩

/-- The markup of a template that is read as statements, where no helpers are put before it. -/
theorem html_eq {values : Json} {source text : String} {stmts : List Stmt}
    (hengine : r.engine = .standard) (hhelpers : r.helpers = "")
    (hread : Template.read ("\n" ++ source) = .ok stmts)
    (hrenders : ∀ c, Renders (execAll (settingOf values stmts) c stmts)
      (start (settingOf values stmts)) text) :
    r.html values (.ok source) = .ok text := by
  show r.engine.renderMarkup (r.helpers ++ "\n" ++ source) values = _
  rw [hengine, hhelpers, String.empty_append]
  show TemplateEngine.renderWith true _ _ = _
  rw [TemplateEngine.renderWith, hread]
  exact congrArg (Except.mapError _) (render_eq_of_renders hrenders)

theorem markup_text (t : String) : (Value.text t).markup = escapeText t := rfl

theorem markup_str (t : String) : (Value.ofJson (.str t)).markup = escapeText t := rfl

theorem html_failureTemplate (hengine : r.engine = .standard) (hhelpers : r.helpers = "")
    {headline : String} (h : '{' ∉ headline.toList) (message : String) :
    r.html (r.failureValues message) (.ok (Page.failureTemplate headline)) =
      .ok ("\n" ++ fillAll escapeText (failurePieces headline message)) := by
  have hmessage : (r.failureValues message).Has "error" (.str message) :=
    ⟨_, rfl, by simp, by simp⟩
  have htext : "\n" ++ fillAll escapeText (failurePieces headline message) =
      "\n" ++ failureTop headline ++
        ((Value.ofJson (.str message)).markup ++ ("</p>\n  </body>\n</html>" ++ "")) := by
    simp [failurePieces, Piece.fill, markup_str, String.append_assoc]
  rw [htext]
  refine html_eq hengine hhelpers (read_failureTemplate h) fun c => ?_
  exact renders_cons (renders_text _)
    (renders_cons (renders_print rfl (finds_var_at_start rfl hmessage))
      (renders_cons (renders_text _) renders_nil))

theorem html_notFoundTemplate (hengine : r.engine = .standard) (hhelpers : r.helpers = "")
    (message : String) :
    r.html (r.failureValues message) (.ok Page.notFoundTemplate) =
      .ok ("\n" ++ fillAll escapeText (notFoundPieces r.request.path)) := by
  have hrequest : (r.failureValues message).Has "request" r.request.toJson :=
    ⟨_, rfl, by simp, by simp⟩
  have hpath : r.request.toJson.Has "path" (.str r.request.path) := ⟨_, rfl, by simp, by simp⟩
  have htext : "\n" ++ fillAll escapeText (notFoundPieces r.request.path) =
      "\n" ++ notFoundTop ++
        ((Value.ofJson (.str r.request.path)).markup ++ ("</h1>\n  </body>\n</html>" ++ "")) := by
    simp [notFoundPieces, Piece.fill, markup_str, String.append_assoc]
  rw [htext]
  refine html_eq hengine hhelpers read_notFoundTemplate fun c => ?_
  exact renders_cons (renders_text _)
    (renders_cons (renders_print rfl (finds_member (finds_var_at_start rfl hrequest) hpath))
      (renders_cons (renders_text _) renders_nil))

/-- The size of an entry is a number of 64 bits. -/
def SizeFits (e : Entry) : Prop := -Int.pow 2 63 ≤ e.size ∧ e.size < Int.pow 2 63

instance (e : Entry) : Decidable (SizeFits e) := inferInstanceAs (Decidable (_ ∧ _))

theorem applyFilter_human_size (hsize : SizeFits e) :
    applyFilter "human_size" (.int e.size) [] = .ok (.text (HumanSize.format e.size)) := by
  obtain ⟨hlow, hhigh⟩ := hsize
  have hbound : Int.pow 2 63 < Value.intBound := by decide
  have hint : Value.toInt? (.int e.size) = some e.size := if_pos (Int.lt_trans hhigh hbound)
  have hrange :
      Arguments.integer (-Int.pow 2 63) (Int.pow 2 63 - 1) (.int e.size) = .ok e.size := by
    rw [Arguments.integer, hint]
    exact if_pos ⟨hlow, Int.le_sub_one_of_lt hhigh⟩
  have hfilter : applyFilter "human_size" (.int e.size) [] =
      (Arguments.integer (-Int.pow 2 63) (Int.pow 2 63 - 1) (.int e.size)).map
        fun i => .text (HumanSize.format i) := rfl
  rw [hfilter, hrange]
  rfl

theorem renders_size (hsize : SizeFits e) (hescaping : m.escaping = true)
    (he : Finds (eval s c .undefined (.var "entry")) m (.ofJson e.toJson)) :
    Renders (exec s c sizeStmt) m (fillAll escapeText (sizePieces e)) := by
  have hkind : e.toJson.Has "type" (.str e.kind.name) := ⟨_, rfl, by simp, by simp⟩
  have hmember : e.toJson.Has "size" (.int e.size) := ⟨_, rfl, by simp, by simp⟩
  have hfolder : Finds
      (eval s c .undefined (.binary .eq (.attr (.var "entry") "type") (.lit (.str "FOLDER")))) m
      (.bool (e.kind.name == "FOLDER")) := by
    rw [← Value.eqv_text]
    exact finds_eq (finds_member he hkind) (finds_literal (.str "FOLDER"))
  refine renders_ifElse hfolder ?_
  unfold sizePieces
  cases e.kind with
  | folder => exact renders_cons (renders_text "-") renders_nil
  | file =>
    have hshown := finds_filter (finds_member he hmember) (applyFilter_human_size hsize)
    have hcell := renders_cons (renders_print hescaping hshown) renders_nil
    show Renders (execAll s c [.emit (.filter "human_size" (.attr (.var "entry") "size") [])]) m _
    simpa [Piece.fill, markup_text] using hcell

/-- The time of the last change, which is never an empty text. -/
theorem finds_lastModified (he : Finds (eval s c .undefined (.var "entry")) m (.ofJson e.toJson)) :
    Finds (eval s c .undefined
        (.binary .or (.attr (.var "entry") "lastModified") (.lit (.str "-")))) m
      (.text (e.lastModified.elim "-" (·.timestamp))) := by
  have hmember : e.toJson.Has "lastModified" (Json.ofInstant? e.lastModified) :=
    ⟨_, rfl, by simp, by simp⟩
  have hor := finds_or (finds_member he hmember) (finds_literal (.str "-"))
  cases hlast : e.lastModified with
  | none =>
    rw [hlast] at hor
    exact hor
  | some t =>
    have hne : (Value.text t.timestamp).isTrue = true := by
      simp [Value.text, Value.isTrue, Instant.timestamp]
    rw [hlast] at hor
    simpa [Json.ofInstant?, Value.ofJson, hne] using hor

theorem renders_row (hsize : SizeFits e) (hescaping : m.escaping = true)
    (he : Finds (eval s c .undefined (.var "entry")) m (.ofJson e.toJson)) :
    Renders (execAll s c rowStmts) m (fillAll escapeText (rowPieces e)) := by
  have hpath : e.toJson.Has "path" (.str e.path) := ⟨_, rfl, by simp, by simp⟩
  have hname : e.toJson.Has "name" (.str e.name) := ⟨_, rfl, by simp, by simp⟩
  have hrow := renders_cons (renders_text "\n        <tr>\n          <td><a href=\"")
    (renders_cons (renders_print hescaping (finds_member he hpath))
    (renders_cons (renders_text "\">")
    (renders_cons (renders_print hescaping (finds_member he hname))
    (renders_cons (renders_text "</a></td>\n          <td>")
    (renders_cons (renders_size hsize hescaping he)
    (renders_cons (renders_text "</td>\n          <td>")
    (renders_cons (renders_print hescaping (finds_lastModified he))
    (renders_cons (renders_text "</td>\n        </tr>") renders_nil))))))))
  unfold rowStmts
  simpa [rowPieces, Piece.fill, markup_text, markup_str, String.append_assoc] using hrow

theorem html_folderListTemplate (hengine : r.engine = .standard) (hhelpers : r.helpers = "")
    {entries : List Entry} (hsizes : ∀ e ∈ entries, SizeFits e) :
    r.html (r.listingValues entries) (.ok Page.folderListTemplate) =
      .ok ("\n" ++ fillAll escapeText
        (listHead r.request.url ++ entries.flatMap rowPieces ++ listFoot)) := by
  let s := settingOf (r.listingValues entries) (listStmts ("\n" ++ listTop) tableTop tableBottom)
  have hpath : (r.listingValues entries).Has "path" (.str r.request.url) :=
    ⟨_, rfl, by simp, by simp⟩
  have hentries : (r.listingValues entries).Has "entries" (.arr (entries.map Entry.toJson)) :=
    ⟨_, rfl, by simp, by simp⟩
  have htext : "\n" ++ fillAll escapeText
        (listHead r.request.url ++ entries.flatMap rowPieces ++ listFoot) =
      "\n" ++ listTop ++ ((Value.ofJson (.str r.request.url)).markup ++ (tableTop ++
        (String.join (entries.map fun e => fillAll escapeText (rowPieces e)) ++
          (tableBottom ++ "")))) := by
    simp [listHead, listFoot, Piece.fill, markup_str, String.append_assoc]
  rw [htext]
  refine html_eq hengine hhelpers read_folderListTemplate fun c => ?_
  have hitems : Finds (eval s c .undefined (.var "entries")) (start s)
      (.seq (entries.map fun e => .ofJson e.toJson)) := by
    have hseq := finds_var_at_start (s := s) (c := c) (v := .undefined) rfl hentries
    rwa [Value.ofJson_arr, List.map_map] at hseq
  have hrow : ∀ e ∈ entries, ∀ f : Frame, f.names.lookup "entry" = some (.ofJson e.toJson) →
      Renders (execAll s c rowStmts) { start s with frames := f :: (start s).frames }
        (fillAll escapeText (rowPieces e)) := by
    intro e he f hf
    exact renders_row (hsizes e he) rfl (finds_var_of_names hf)
  exact renders_cons (renders_text _)
    (renders_cons (renders_print rfl (finds_var_at_start rfl hpath))
      (renders_cons (renders_text _)
        (renders_cons (renders_forLoop hitems hrow)
          (renders_cons (renders_text _) renders_nil))))

namespace Responder

variable {o : Outcome} {page : Page} {values : Json}

theorem html_embedded (hengine : r.engine = .standard) (hhelpers : r.helpers = "")
    (ho : r.outcomePage? o = some (page, values))
    (hsizes : ∀ entries, o = .listing entries → ∀ e ∈ entries, SizeFits e) :
    r.html values (.ok page.embedded) = .ok ("\n" ++ fillAll escapeText (r.pieces o)) := by
  cases o with
  | notFound =>
    cases ho
    exact html_notFoundTemplate hengine hhelpers _
  | forbidden f =>
    cases ho
    exact html_failureTemplate hengine hhelpers (by decide) _
  | badRequest f =>
    cases ho
    exact html_failureTemplate hengine hhelpers (by decide) _
  | unauthorized f =>
    cases ho
    exact html_failureTemplate hengine hhelpers (by decide) _
  | internalServerError f =>
    cases ho
    exact html_failureTemplate hengine hhelpers (by decide) _
  | listing entries =>
    cases ho
    exact html_folderListTemplate hengine hhelpers (hsizes entries rfl)
  | notModified | preconditionFailed | redirect _ | redirectWithTrailingSlash | stored _
  | removed _ => cases ho

/-- An embedded template that renders is all that a page is answered from. -/
theorem answered_embedded_iff {loads : List TemplateLoad} {response : Response} {html : String}
    (hsource : r.source page = .embedded page)
    (hhtml : r.html values (.ok page.embedded) = .ok html) :
    r.Answered page values loads response ↔
      loads = [⟨.embedded page, [], .ok page.embedded⟩] ∧
        response = .markup page.status html := by
  have hloads {calls : Conversation StoreInterface} {text : Answer String}
      (hload : ((r.source page).load r.files).Runs calls text) :
      calls = [] ∧ text = .ok page.embedded := by
    rw [hsource] at hload
    exact runs_done_iff.1 hload
  constructor
  · intro hanswered
    cases hanswered with
    | shown hload hshown =>
      obtain ⟨rfl, rfl⟩ := hloads hload
      rw [hhtml] at hshown
      cases hshown
      rw [hsource]
      exact ⟨rfl, rfl⟩
    | replaced _ hload hlost =>
      obtain ⟨rfl, rfl⟩ := hloads hload
      rw [hhtml] at hlost
      cases hlost
    | lost hload hlost =>
      obtain ⟨rfl, rfl⟩ := hloads hload
      rw [hhtml] at hlost
      cases hlost
  · rintro ⟨rfl, rfl⟩
    rw [← hsource]
    refine .shown ?_ hhtml
    rw [hsource]
    exact .done _

end Responder

end ObjectGateway.Http
