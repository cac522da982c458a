import MailTemplate.Html.Page
import MailTemplate.Metadata
import MailTemplate.PlainText
import MailTemplate.Variable

/-!
# Compiled templates

* `Compiled` and `Document.compile`: a document with its HTML, its plain text and its variables;
* `TemplateRecord` and `Document.record`: a compiled document with its metadata, ready to be stored.
-/

namespace MailTemplate

/-- A document and what is made of it. -/
structure Compiled where
  document : Document
  html : String
  text : String
  vars : List Variable

/-- A document and what is made of it; the variables are those of the HTML. -/
def Document.compile (settings : Settings) (d : Document) (title : String) : Compiled :=
  let html := d.render settings title
  ⟨d, html, d.plainText, Variable.ofText html⟩

/-- A compiled document as JSON. -/
def Compiled.toJson (c : Compiled) : Json :=
  .obj [("document", c.document.toJson), ("html", .str c.html), ("text", .str c.text),
    ("variables", .arr (c.vars.map Variable.toJson))]

/-- A compiled document with its metadata. -/
structure TemplateRecord where
  metadata : Metadata
  compiled : Compiled

/-- The record of a document, compiled with its subject as the title. -/
def Document.record (settings : Settings) (metadata : Metadata) (d : Document) : TemplateRecord :=
  ⟨metadata, d.compile settings metadata.subject⟩

/-- A record as the members of an object. -/
def TemplateRecord.toObject (r : TemplateRecord) : Json.Object :=
  r.metadata.toObject ++
    [("htmlContent", .str r.compiled.html), ("textContent", .str r.compiled.text),
     ("variables", .arr (r.compiled.vars.map Variable.toJson))] ++
    r.compiled.document.toObject

end MailTemplate
