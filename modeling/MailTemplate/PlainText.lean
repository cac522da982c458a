import MailTemplate.Document

/-!
# The plain text of a document

* `Content.plainText?`: the text of a content, if it has one;
* `Document.plainText`: the texts of the blocks as paragraphs.
-/

namespace MailTemplate
namespace PlainText

/-- The line that stands for a divider. -/
def dividerLine : String := String.ofList (List.replicate 40 '-')

/-- A list, each item after a hyphen. -/
def listText (items : List String) : String := "\n".intercalate (items.map ("- " ++ ·))

/-- Paragraphs with an empty line between them and a line break at the end; gaps at either end of the
whole are left out. -/
def ofParagraphs (paragraphs : List String) : String :=
  let text := Text.trim Text.isGap ("\n\n".intercalate paragraphs)
  if text = "" then "" else text ++ "\n"

end PlainText

open PlainText

/-- The text of a content; a spacer and an image without a description have none. -/
def Content.plainText? : Content → Option String
  | .header title subtitle => some (if subtitle = "" then title else title ++ "\n" ++ subtitle)
  | .heading text _ _ => some text
  | .paragraph text _ _ => some text
  | .image _ alt _ => if alt = "" then none else some ("[" ++ alt ++ "]")
  | .button text url _ => some (text ++ ": " ++ url)
  | .divider _ _ => some dividerLine
  | .spacer _ => none
  | .list items _ => some (listText items)
  | .footer text => some text

/-- The text of a document: a paragraph for each block that has a text. -/
def Document.plainText (d : Document) : String :=
  ofParagraphs (d.blocks.filterMap (·.attributes.content.plainText?))

end MailTemplate
