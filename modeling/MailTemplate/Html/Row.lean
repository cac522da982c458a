import MailTemplate.Content
import MailTemplate.Html
import MailTemplate.Theme

/-!
# Rows of a template

Each block is one row of the table that makes up a template.

* `HeadingLevel`: the three headings and their sizes;
* `Row`: what a block shows, every value as a text;
* `Content.row?`: what a content shows, if it can be shown;
* `cornerRadius`: the rounded corners of the first and the last row;
* `Row.html`: a row as HTML;
* `Html.inert`: the comment in the place of a row that there is not.
-/

namespace MailTemplate

/-- A level of headings. -/
inductive HeadingLevel
  | h1
  | h2
  | h3
  deriving DecidableEq

namespace HeadingLevel

/-- The name of the element. -/
def tag : HeadingLevel → String
  | h1 => "h1"
  | h2 => "h2"
  | h3 => "h3"

/-- The size of the font, in pixels. -/
def size : HeadingLevel → String
  | h1 => "28"
  | h2 => "22"
  | h3 => "18"

/-- The level of a name; all other names stand for the second level. -/
def ofName (s : String) : HeadingLevel :=
  if s = "h1" then h1 else if s = "h3" then h3 else h2

end HeadingLevel

/-- What a block shows. -/
inductive Row
  | header (title : String) (subtitle : Option String)
  | heading (level : HeadingLevel) (color text : String)
  | paragraph (color fontSize text : String)
  | image (source alt width : String)
  | button (url color text : String)
  | divider (margin color : String)
  | spacer (height : String)
  | list (color : String) (items : List String)
  | footer (text : String)
  deriving DecidableEq

/-- A text, if it is not empty. -/
def nonempty? (s : String) : Option String := if s = "" then none else some s

/-- What a content shows: an image without an address is the placeholder image. A length that has no
form in a style sheet cannot be shown. -/
def Content.row? (settings : Settings) : Content → Option Row
  | .header title subtitle => some (.header title (nonempty? subtitle))
  | .heading text level color => some (.heading (.ofName level) color text)
  | .paragraph text color fontSize =>
      fontSize.css?.map fun fontSize => .paragraph color fontSize text
  | .image url alt width =>
      width.css?.map fun width =>
        .image ((nonempty? url).getD settings.placeholderImage) alt width
  | .button text url color => some (.button url color text)
  | .divider color margin => margin.css?.map fun margin => .divider margin color
  | .spacer height => height.css?.map .spacer
  | .list items color => some (.list color items)
  | .footer text => some (.footer text)

/-- The rounded corners of the row at a position: the upper ones of the first row, the lower ones of
the last, all of a single row. -/
def cornerRadius (position count radius : Int) : String :=
  let r := toString radius ++ "px"
  if position = 0 then
    if position = count - 1 then " border-radius: " ++ r ++ ";"
    else " border-radius: " ++ r ++ " " ++ r ++ " 0 0;"
  else if position = count - 1 then " border-radius: 0 0 " ++ r ++ " " ++ r ++ ";"
  else ""

open Html.Piece

namespace Row

/-- The subtitle below a title. -/
def subtitleHtml : Option String → Html
  | none => []
  | some subtitle =>
      [markup "\n  <p style=\"margin: 12px 0 0; color: rgba(255,255,255,0.9); font-size: 16px;\">",
       value subtitle, markup "</p>"]

/-- An item of a list. -/
def itemHtml (item : String) : Html :=
  [markup "<li style=\"margin-bottom: 8px;\">", value item, markup "</li>"]

/-- What follows the style of the cell of a row, up to its end. -/
def endOfRow : Html := [markup "</td></tr>"]

/-- The cell of a row up to the end of its style. -/
def cell (style : Html) (corners : String) : Html :=
  [markup "<tr><td style=\""] ++ style ++ [markup corners, markup "\">"]

/-- A row as HTML, with the declaration of its corners. -/
def html (theme : Theme) (corners : String) : Row → Html
  | header title subtitle =>
      cell [markup "background: linear-gradient(135deg, ", value theme.primaryColor,
        markup " 0%, ", value theme.secondaryColor,
        markup " 100%); padding: 48px 40px; text-align: center;"] corners ++
      [markup ("\n  <h1 style=\"margin: 0; color: #fff; font-size: 28px; font-weight: 700; " ++
        "letter-spacing: -0.5px;\">"), value title, markup "</h1>"] ++
      subtitleHtml subtitle ++ markup "\n" :: endOfRow
  | heading level color text =>
      cell [markup "padding: 24px 40px 8px;"] corners ++
      [markup ("<" ++ level.tag ++ " style=\"margin: 0; color: "), value color,
        markup ("; font-size: " ++ level.size ++ "px; font-weight: 600;\">"), value text,
        markup ("</" ++ level.tag ++ ">")] ++ endOfRow
  | paragraph color fontSize text =>
      cell [markup "padding: 8px 40px;"] corners ++
      [markup "<p style=\"margin: 0; color: ", value color, markup "; font-size: ",
        value fontSize, markup "; line-height: 1.7;\">", value text, markup "</p>"] ++ endOfRow
  | image source alt width =>
      cell [markup "padding: 16px 40px; text-align: center;"] corners ++
      [markup "<img src=\"", value source, markup "\" alt=\"", value alt,
        markup "\" style=\"max-width: 100%; width: ", value width,
        markup "; height: auto; border-radius: 12px;\">"] ++ endOfRow
  | button url color text =>
      cell [markup "padding: 24px 40px; text-align: center;"] corners ++
      [markup "<a href=\"", value url, markup "\" style=\"display: inline-block; background: ",
        value color,
        markup ("; color: #fff; text-decoration: none; padding: 16px 48px; border-radius: 12px; " ++
          "font-size: 16px; font-weight: 600; box-shadow: 0 4px 14px "),
        value color, markup "40;\">", value text, markup "</a>"] ++ endOfRow
  | divider margin color =>
      cell [markup "padding: ", value margin, markup " 40px;"] corners ++
      [markup "<hr style=\"border: none; border-top: 1px solid ", value color,
        markup "; margin: 0;\">"] ++ endOfRow
  | spacer height => cell [markup "height: ", value height, markup ";"] corners ++ endOfRow
  | list color items =>
      cell [markup "padding: 8px 40px;"] corners ++
      [markup "<ul style=\"margin: 0; padding-left: 20px; color: ", value color,
        markup "; font-size: 16px; line-height: 1.6;\">"] ++
      items.flatMap itemHtml ++ markup "</ul>" :: endOfRow
  | footer text =>
      cell [markup "background: ", value theme.footerBackground,
        markup "; padding: 32px 40px; text-align: center;"] corners ++
      [markup "<p style=\"margin: 0; color: #64748b; font-size: 14px;\">", value text,
        markup "</p>"] ++ endOfRow

end Row

/-- The comment in the place of a block of some type that is not shown. -/
def Html.inert (type : String) : Html := [markup "<!-- bloc ignoré : ", value type, markup " -->"]

end MailTemplate
