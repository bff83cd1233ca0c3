import ObjectGateway.Failure
import ObjectGateway.Template.Render

/-!
# Template engines

An engine renders a template with a context, once as plain text and once as markup.  The gateway's
parts take an engine as a parameter and use only these two functions.
-/

namespace ObjectGateway

/-- Renders templates. -/
structure TemplateEngine where
  /-- Render plain text. -/
  render : String → Json → Answer String
  /-- Render markup: printed values are escaped. -/
  renderMarkup : String → Json → Answer String

namespace TemplateEngine

/-- Render a template with the values of a context. -/
def renderWith (escaping : Bool) (source : String) (context : Json) : Answer String :=
  let result := do
    let stmts ← Template.read source
    Template.render ⟨.ofJson context, escaping, Template.blocksOf stmts⟩ stmts
  result.mapError fun f => .template f.message

/-- The engine of the template language. -/
def standard : TemplateEngine := ⟨renderWith false, renderWith true⟩

/-- Render a text that must be a single line. -/
def renderLine (e : TemplateEngine) (source : String) (context : Json) : Answer String :=
  (e.render source context).map Text.singleLine

end TemplateEngine

end ObjectGateway
