import MailTemplate.Document
import MailTemplate.Placeholder

/-!
# The starter document

* `Document.starterContents`: what the blocks of a new template hold, the usual placeholders among
  it;
* `Document.starter`: a new template, with a fresh id for each block.
-/

namespace MailTemplate.Document

open Placeholder (written)

/-- What the blocks of a new template hold. -/
def starterContents (settings : Settings) (year : String) : List Content :=
  [.header (written "title") "",
   .heading ("Hello " ++ written "name" ++ " 👋") "h2" "#1e293b",
   .paragraph (written "content") "#475569" (.int 16),
   .button (written "buttonText") (written "buttonLink") "#6366f1",
   .footer ("© " ++ year ++ " " ++ settings.company ++ ". All rights reserved.")]

/-- Blocks with the given contents and drawn ids. -/
def drawBlocks : List Content → IdSource → List Block × IdSource
  | [], source => ([], source)
  | content :: contents, source =>
      let (id, source) := source.draw content.kind.name
      let (blocks, source) := drawBlocks contents source
      (⟨id, content, []⟩ :: blocks, source)

/-- A new template; an empty year is the current one. -/
def starter (settings : Settings) (year : Json) (theme : Theme) (source : IdSource) :
    Checked Document × IdSource :=
  let year := if year.isTruthy then year.display else toString settings.year
  let (blocks, source) := drawBlocks (starterContents settings year) source
  (ofParts (blocks, theme), source)

end MailTemplate.Document
