import ObjectGateway.Proofs.Http.Fallback
import ObjectGateway.Proofs.Text.Markup

/-!
# Pages in pieces

A template is a list of pieces: text that is shown as it is, tags that leave no trace, and holes
that values are put into.  A page is filled in from them if what is put into a hole stands for its value
and holds no mark of its own: `Filled`.  The embedded templates are those of the pieces given here,
`Responder.piecesOf`, where that of a listing has one row for all entries and the page one row for
each.  The page without a template has one hole, for the message.
-/

namespace ObjectGateway.Http

/-! ## Pieces of pages -/

/-- A piece of a template. -/
inductive Piece
  | text (s : String)
  /-- A part of the template that leaves no trace on the page. -/
  | silent (source : String)
  /-- A part that stands for a value. -/
  | hole (source value : String)

namespace Piece

/-- A piece as it is written in the template. -/
def source : Piece → String
  | text s => s
  | silent source => source
  | hole source _ => source

/-- A piece as it may be shown on the page. -/
def Shows : Piece → String → Prop
  | text s, html => html = s
  | silent _, html => html = ""
  | hole _ value, html => Markup.Stands html value

/-- A piece on a page whose values are escaped. -/
def fill (escape : String → String) : Piece → String
  | text s => s
  | silent _ => ""
  | hole _ value => escape value

theorem shows_fill {escape : String → String} (h : ∀ value, Markup.Stands (escape value) value)
    (p : Piece) : p.Shows (p.fill escape) := by
  cases p with
  | text s => rfl
  | silent source => rfl
  | hole source value => exact h value

end Piece

/-- The text of a template of pieces. -/
def sourceOf (ps : List Piece) : String := String.join (ps.map Piece.source)

@[simp]
theorem sourceOf_nil : sourceOf [] = "" := rfl

@[simp]
theorem sourceOf_cons (p : Piece) (ps : List Piece) :
    sourceOf (p :: ps) = p.source ++ sourceOf ps := by
  simp [sourceOf]

/-- The pieces of a template, of which one part in the middle may be repeated. -/
inductive PiecesOf : String → List Piece → Prop
  | once (ps : List Piece) : PiecesOf (sourceOf ps) ps
  | repeated (head foot : List Piece) {row : String} {rows : List (List Piece)}
      (hrows : ∀ ps ∈ rows, sourceOf ps = row) :
      PiecesOf (sourceOf head ++ row ++ sourceOf foot) (head ++ rows.flatten ++ foot)

/-- A page that shows pieces in order. -/
def Filled (ps : List Piece) (html : String) : Prop :=
  ∃ parts, List.Forall₂ Piece.Shows ps parts ∧ html = String.join parts

/-- The page of pieces whose values are escaped. -/
def fillAll (escape : String → String) (ps : List Piece) : String :=
  String.join (ps.map (Piece.fill escape))

@[simp]
theorem fillAll_nil (escape : String → String) : fillAll escape [] = "" := rfl

@[simp]
theorem fillAll_cons (escape : String → String) (p : Piece) (ps : List Piece) :
    fillAll escape (p :: ps) = p.fill escape ++ fillAll escape ps := by
  simp [fillAll]

theorem filled_fillAll {escape : String → String}
    (h : ∀ value, Markup.Stands (escape value) value) (ps : List Piece) :
    Filled ps (fillAll escape ps) := by
  refine ⟨ps.map (Piece.fill escape), ?_, rfl⟩
  rw [List.forall₂_map_right_iff, List.forall₂_same]
  exact fun p _ => Piece.shows_fill h p

@[simp]
theorem fillAll_append (escape : String → String) (ps qs : List Piece) :
    fillAll escape (ps ++ qs) = fillAll escape ps ++ fillAll escape qs := by
  simp [fillAll]

@[simp]
theorem fillAll_flatMap {α : Type} (escape : String → String) (f : α → List Piece) (xs : List α) :
    fillAll escape (xs.flatMap f) = String.join (xs.map fun x => fillAll escape (f x)) := by
  induction xs with
  | nil => rfl
  | cons x rest ih => rw [List.flatMap_cons, fillAll_append, ih, List.map_cons, String.join_cons]

/-! ## The pages -/

/-- The page of a failure up to the message. -/
def failureTop (headline : String) : String :=
  "<!DOCTYPE html>\n<html>\n  <body>\n    <h1>" ++ headline ++ "</h1>\n    <p>"

/-- The page of a failure. -/
def failurePieces (headline message : String) : List Piece :=
  [.text (failureTop headline),
    .hole "\x7b\x7b error \x7d\x7d" message,
    .text "</p>\n  </body>\n</html>",
    .silent "\n"]

/-- The page of a path that leads nowhere up to the path. -/
def notFoundTop : String := "<!DOCTYPE html>\n<html>\n  <body>\n    <h1>Not Found "

/-- The page of a path that leads nowhere. -/
def notFoundPieces (path : String) : List Piece :=
  [.text notFoundTop,
    .hole "\x7b\x7b request.path \x7d\x7d" path,
    .text "</h1>\n  </body>\n</html>",
    .silent "\n"]

/-- The page of a listing up to its path. -/
def listTop : String := "<!DOCTYPE html>\n<html>\n  <body>\n    <h1>Index of "

/-- The page of a listing from its path up to the rows. -/
def tableTop : String :=
  "</h1>\n    <table style=\"width:100%\">\n      <thead>\n        <tr>\n" ++
    "          <th style=\"text-align:left;width:60%\">Entry</th>\n" ++
    "          <th style=\"text-align:left;width:20%\">Size</th>\n" ++
    "          <th style=\"text-align:left;width:20%\">Last modified</th>\n" ++
    "        </tr>\n      </thead>\n      <tbody>\n        <tr>\n" ++
    "          <td><a href=\"../\">..</a></td>\n          <td>-</td>\n          <td>-</td>\n" ++
    "        </tr>"

/-- The page of a listing behind its rows. -/
def tableBottom : String := "\n      </tbody>\n    </table>\n  </body>\n</html>"

/-- The page of a listing before its rows. -/
def listHead (path : String) : List Piece :=
  [.text listTop,
    .hole "\x7b\x7b path \x7d\x7d" path,
    .text tableTop,
    .silent "\n        \x7b%- for entry in entries %\x7d"]

/-- The size of an entry; that of a folder is not shown. -/
def sizePieces (e : Entry) : List Piece :=
  match e.kind with
  | .folder =>
    [.silent "\x7b% if entry.type == \"FOLDER\" %\x7d", .text "-",
      .silent "\x7b% else %\x7d\x7b\x7b entry.size | human_size \x7d\x7d\x7b% endif %\x7d"]
  | .file =>
    [.silent "\x7b% if entry.type == \"FOLDER\" %\x7d-\x7b% else %\x7d",
      .hole "\x7b\x7b entry.size | human_size \x7d\x7d" (HumanSize.format e.size),
      .silent "\x7b% endif %\x7d"]

/-- The row of an entry. -/
def rowPieces (e : Entry) : List Piece :=
  [.text "\n        <tr>\n          <td><a href=\"",
    .hole "\x7b\x7b entry.path \x7d\x7d" e.path,
    .text "\">",
    .hole "\x7b\x7b entry.name \x7d\x7d" e.name,
    .text "</a></td>\n          <td>"] ++
  sizePieces e ++
  [.text "</td>\n          <td>",
    .hole "\x7b\x7b entry.lastModified or \"-\" \x7d\x7d" (e.lastModified.elim "-" (·.timestamp)),
    .text "</td>\n        </tr>"]

/-- The page of a listing after its rows. -/
def listFoot : List Piece :=
  [.silent "\n        \x7b%- endfor %\x7d",
    .text tableBottom,
    .silent "\n"]

/-- The page without a template. -/
def fallbackPieces (message : String) : List Piece :=
  [.text "<!DOCTYPE html>\n<html>\n  <body>\n    <h1>Internal Server Error</h1>\n    <p>",
    .hole "\x7b\x7d" message,
    .text "</p>\n  </body>\n</html>"]

/-- The pieces of the embedded page that tells of an outcome. -/
def Responder.pieces (r : Responder) : Outcome → List Piece
  | .notFound => notFoundPieces r.request.path
  | .forbidden f => failurePieces "Forbidden" f.message
  | .badRequest f => failurePieces "Bad Request" f.message
  | .unauthorized f => failurePieces "Unauthorized" f.message
  | .internalServerError f => failurePieces "Internal Server Error" f.message
  | .listing entries => listHead r.request.url ++ entries.flatMap rowPieces ++ listFoot
  | _ => []

/-! ## Their templates

That two closed texts are the same is decided on their characters: deciding it on the texts would
compare their encodings, which takes long. -/

/-- What a row is written as in the template. -/
def rowSource : String :=
  ("\n        <tr>\n          <td><a href=\"" ++ "\x7b\x7b entry.path \x7d\x7d") ++
  ("\">" ++ "\x7b\x7b entry.name \x7d\x7d") ++
  ("</a></td>\n          <td>" ++ "\x7b% if entry.type == \"FOLDER\" %\x7d") ++
  ("-" ++ "\x7b% else %\x7d") ++
  "\x7b\x7b entry.size | human_size \x7d\x7d" ++
  "\x7b% endif %\x7d" ++
  ("</td>\n          <td>" ++ "\x7b\x7b entry.lastModified or \"-\" \x7d\x7d") ++
  "</td>\n        </tr>"

theorem toList_lines (ls : List String) :
    (Page.lines ls).toList = ls.flatMap fun l => l.toList ++ ['\n'] := by
  simp [Page.lines, List.flatMap_map]

theorem toList_sourceOf (ps : List Piece) :
    (sourceOf ps).toList = ps.flatMap (·.source.toList) := by
  simp [sourceOf, List.flatMap_map]

theorem sourceOf_failurePieces (headline message : String) :
    sourceOf (failurePieces headline message) = Page.failureTemplate headline := by
  refine String.toList_inj.1 ((toList_sourceOf _).trans (.trans ?_ (toList_lines _).symm))
  unfold failurePieces failureTop
  simp only [List.flatMap_cons, List.flatMap_nil, Piece.source, String.toList_append]
  repeat rewrite [String.toList_ofList]
  simp only [List.append_assoc, List.cons_append, List.nil_append]

theorem sourceOf_notFoundPieces (path : String) :
    sourceOf (notFoundPieces path) = Page.notFoundTemplate := by
  refine String.toList_inj.1 ((toList_sourceOf _).trans (.trans ?_ (toList_lines _).symm))
  unfold notFoundPieces notFoundTop
  simp only [List.flatMap_cons, List.flatMap_nil, Piece.source]
  repeat rewrite [String.toList_ofList]
  decide +kernel

/-- The rows of all entries are written in the same way. -/
theorem sourceOf_rowPieces (e : Entry) : sourceOf (rowPieces e) = rowSource := by
  refine String.toList_inj.1 ((toList_sourceOf _).trans ?_)
  unfold rowPieces sizePieces rowSource
  cases hkind : e.kind
  · simp only [List.cons_append, List.nil_append, List.flatMap_cons, List.flatMap_nil,
      Piece.source, String.toList_append]
    repeat rewrite [String.toList_ofList]
    decide +kernel
  · simp only [List.cons_append, List.nil_append, List.flatMap_cons, List.flatMap_nil,
      Piece.source, String.toList_append]
    repeat rewrite [String.toList_ofList]
    decide +kernel

theorem sourceOf_list (path : String) :
    sourceOf (listHead path) ++ rowSource ++ sourceOf listFoot = Page.folderListTemplate := by
  have hpieces : (sourceOf (listHead path) ++ rowSource ++ sourceOf listFoot).toList =
      (listHead path).flatMap (·.source.toList) ++ rowSource.toList ++
        listFoot.flatMap (·.source.toList) := by
    simp only [String.toList_append, toList_sourceOf]
  refine String.toList_inj.1 (hpieces.trans (.trans ?_ (toList_lines _).symm))
  unfold listHead listTop tableTop rowSource listFoot tableBottom
  simp only [List.flatMap_cons, List.flatMap_nil, Piece.source, String.toList_append]
  repeat rewrite [String.toList_ofList]
  decide +kernel

/-- The pieces of a page are those of its template, with one row for each entry. -/
theorem Responder.piecesOf {r : Responder} {o : Outcome} {page : Page} {values : Json}
    (ho : r.outcomePage? o = some (page, values)) : PiecesOf page.embedded (r.pieces o) := by
  have hfailure (headline message : String) :
      PiecesOf (Page.failureTemplate headline) (failurePieces headline message) := by
    rw [← sourceOf_failurePieces headline message]
    exact .once _
  cases o with
  | notFound =>
    cases ho
    rw [Page.embedded, ← sourceOf_notFoundPieces r.request.path]
    exact .once _
  | forbidden f =>
    cases ho
    exact hfailure _ _
  | badRequest f =>
    cases ho
    exact hfailure _ _
  | unauthorized f =>
    cases ho
    exact hfailure _ _
  | internalServerError f =>
    cases ho
    exact hfailure _ _
  | listing entries =>
    cases ho
    rw [Page.embedded, ← sourceOf_list r.request.url, Responder.pieces, List.flatMap_def]
    refine .repeated _ _ fun ps hps => ?_
    obtain ⟨e, -, rfl⟩ := List.mem_map.1 hps
    exact sourceOf_rowPieces e
  | notModified | preconditionFailed | redirect _ | redirectWithTrailingSlash | stored _
  | removed _ => cases ho

theorem filled_fallback (message : String) :
    ∃ html, Filled (fallbackPieces message) html ∧
      Response.fallback message = .markup 500 html := by
  refine ⟨_, filled_fillAll Markup.stands_escapeMarkup _, ?_⟩
  simp [Response.fallback, fallbackPieces, Piece.fill, String.append_assoc]

end ObjectGateway.Http
