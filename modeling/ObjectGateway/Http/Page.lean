import ObjectGateway.Config.Basic

/-!
# Pages

The status of each page, and the template that it is rendered from unless another one is configured.
-/

namespace ObjectGateway.Page

/-- The status of a page. -/
def status : Page → Nat
  | folderList => 200
  | notFound => 404
  | internalServerError => 500
  | forbidden => 403
  | badRequest => 400
  | unauthorized => 401

/-- Lines, each with a line feed. -/
def lines (ls : List String) : String :=
  String.join (ls.map (· ++ "\n"))

/-- The page of a failure, with a headline and the message. -/
def failureTemplate (headline : String) : String :=
  lines [
    "<!DOCTYPE html>",
    "<html>",
    "  <body>",
    "    <h1>" ++ headline ++ "</h1>",
    "    <p>\x7b\x7b error \x7d\x7d</p>",
    "  </body>",
    "</html>"]

/-- The page of a path that leads nowhere. -/
def notFoundTemplate : String :=
  lines [
    "<!DOCTYPE html>",
    "<html>",
    "  <body>",
    "    <h1>Not Found \x7b\x7b request.path \x7d\x7d</h1>",
    "  </body>",
    "</html>"]

/-- The page of a listing. -/
def folderListTemplate : String :=
  lines [
    "<!DOCTYPE html>",
    "<html>",
    "  <body>",
    "    <h1>Index of \x7b\x7b path \x7d\x7d</h1>",
    "    <table style=\"width:100%\">",
    "      <thead>",
    "        <tr>",
    "          <th style=\"text-align:left;width:60%\">Entry</th>",
    "          <th style=\"text-align:left;width:20%\">Size</th>",
    "          <th style=\"text-align:left;width:20%\">Last modified</th>",
    "        </tr>",
    "      </thead>",
    "      <tbody>",
    "        <tr>",
    "          <td><a href=\"../\">..</a></td>",
    "          <td>-</td>",
    "          <td>-</td>",
    "        </tr>",
    "        \x7b%- for entry in entries %\x7d",
    "        <tr>",
    "          <td><a href=\"\x7b\x7b entry.path \x7d\x7d\">\x7b\x7b entry.name \x7d\x7d</a></td>",
    "          <td>\x7b% if entry.type == \"FOLDER\" %\x7d-\x7b% else %\x7d\x7b\x7b entry.size | human_size \x7d\x7d\x7b% endif %\x7d</td>",
    "          <td>\x7b\x7b entry.lastModified or \"-\" \x7d\x7d</td>",
    "        </tr>",
    "        \x7b%- endfor %\x7d",
    "      </tbody>",
    "    </table>",
    "  </body>",
    "</html>"]

/-- The template of a page that no configuration replaces. -/
def embedded : Page → String
  | folderList => folderListTemplate
  | notFound => notFoundTemplate
  | internalServerError => failureTemplate "Internal Server Error"
  | forbidden => failureTemplate "Forbidden"
  | badRequest => failureTemplate "Bad Request"
  | unauthorized => failureTemplate "Unauthorized"

end ObjectGateway.Page
