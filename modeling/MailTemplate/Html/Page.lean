import MailTemplate.Document
import MailTemplate.Html.Row

/-!
# The HTML of a document

* `Block.html`: a block as the row at some position, or as a comment;
* `Document.rows`: the rows of a document;
* `Document.html`: the whole page, a column of rows in the middle.
-/

namespace MailTemplate

open Html.Piece

/-- A block as the row at a position among a number of rows, or a comment if it cannot be shown. -/
def Block.html (settings : Settings) (theme : Theme) (position count : Int) (block : Block) :
    Html :=
  match block.attributes.content.row? settings with
  | some row => row.html theme (cornerRadius position count theme.borderRadius.val)
  | none => Html.inert block.kind.name

namespace Document

/-- The rows of a document. -/
def rows (settings : Settings) (d : Document) : List Html :=
  d.blocks.mapIdx fun i block => block.html settings d.theme i d.blocks.length

/-- The page before its rows. -/
def head (theme : Theme) (title : String) : Html :=
  [markup ("<!DOCTYPE html>\n<html><head><meta charset=\"utf-8\"><meta name=\"viewport\" " ++
      "content=\"width=device-width, initial-scale=1.0\"><title>"),
   value title,
   markup "</title></head>\n<body style=\"margin: 0; padding: 0; font-family: ",
   value theme.fontFamily, markup "; background: ", value theme.backgroundColor,
   markup (";\">\n<table role=\"presentation\" style=\"width: 100%; border-collapse: collapse;\">" ++
      "<tr><td align=\"center\" style=\"padding: 40px 20px;\">\n" ++
      "<table role=\"presentation\" style=\"width: 100%; max-width: "),
   markup (toString theme.contentWidth.val),
   markup "px; border-collapse: collapse; background: ", value theme.contentBackground,
   markup "; border-radius: ", markup (toString theme.borderRadius.val),
   markup "px; box-shadow: 0 4px 24px rgba(0,0,0,0.08);\">\n"]

/-- The page after its rows. -/
def tail : Html := [markup "\n</table></td></tr></table></body></html>"]

/-- The page of a document, its rows on lines of their own. -/
def html (settings : Settings) (d : Document) (title : String) : Html :=
  head d.theme title ++ List.intercalate [markup "\n"] (d.rows settings) ++ tail

/-- The text of the page of a document. -/
def render (settings : Settings) (d : Document) (title : String) : String :=
  (d.html settings title).toText

end Document
end MailTemplate
