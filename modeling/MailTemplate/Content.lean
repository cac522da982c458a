import MailTemplate.Kind
import MailTemplate.Record
import MailTemplate.Settings

/-!
# The content of blocks

* `Content`: what a block of each kind holds;
* `Kind.fields` and `Kind.defaults`: the declared fields of a kind, and what a new block holds;
* `Content.ofRecord` and `Content.toRecord`: a content and the record of its fields, inverse to each
  other.
-/

namespace MailTemplate

/-- What a block holds. -/
inductive Content
  | header (title subtitle : String)
  | heading (text level color : String)
  | paragraph (text color : String) (fontSize : Pixels)
  | image (url alt : String) (width : Pixels)
  | button (text url color : String)
  | divider (color : String) (margin : Pixels)
  | spacer (height : Pixels)
  | list (items : List String) (color : String)
  | footer (text : String)
  deriving DecidableEq

/-- A text under one name. -/
@[reducible] def textField (name : String) : Field := ⟨⟨name, name⟩, .text⟩

/-- A length under one name. -/
@[reducible] def pixelsField (name : String) : Field := ⟨⟨name, name⟩, .pixels⟩

namespace Kind

/-- The declared fields of a kind. -/
@[reducible] def fields : Kind → List Field
  | header => [textField "title", textField "subtitle"]
  | heading => [textField "text", textField "level", textField "color"]
  | paragraph =>
      [textField "text", textField "color", ⟨⟨"fontSize", "font_size"⟩, .pixels⟩]
  | image => [textField "url", textField "alt", pixelsField "width"]
  | button => [textField "text", textField "url", textField "color"]
  | divider => [textField "color", pixelsField "margin"]
  | spacer => [pixelsField "height"]
  | list => [⟨⟨"items", "items"⟩, .texts⟩, textField "color"]
  | footer => [textField "text"]

/-- What a new block of a kind holds. -/
def defaults (settings : Settings) : (kind : Kind) → Record kind.fields
  | header => ("Email Title", "", ())
  | heading => ("Heading", "h2", "#1e293b", ())
  | paragraph => ("Your text here...", "#475569", .int 16, ())
  | image => ("", "Image", .text "100%", ())
  | button => ("Click Here", "#", "#6366f1", ())
  | divider => ("#e2e8f0", .int 24, ())
  | spacer => (.int 32, ())
  | list => (["Item 1", "Item 2", "Item 3"], "#475569", ())
  | footer => (settings.footerText, ())

end Kind

namespace Content

/-- The kind of a content. -/
def kind : Content → Kind
  | header .. => .header
  | heading .. => .heading
  | paragraph .. => .paragraph
  | image .. => .image
  | button .. => .button
  | divider .. => .divider
  | spacer .. => .spacer
  | list .. => .list
  | footer .. => .footer

/-- The content with the given fields. -/
def ofRecord : (kind : Kind) → Record kind.fields → Content
  | .header, (title, subtitle, ()) => .header title subtitle
  | .heading, (text, level, color, ()) => .heading text level color
  | .paragraph, (text, color, fontSize, ()) => .paragraph text color fontSize
  | .image, (url, alt, width, ()) => .image url alt width
  | .button, (text, url, color, ()) => .button text url color
  | .divider, (color, margin, ()) => .divider color margin
  | .spacer, (height, ()) => .spacer height
  | .list, (items, color, ()) => .list items color
  | .footer, (text, ()) => .footer text

/-- The fields of a content. -/
def toRecord : (content : Content) → Record content.kind.fields
  | .header title subtitle => (title, subtitle, ())
  | .heading text level color => (text, level, color, ())
  | .paragraph text color fontSize => (text, color, fontSize, ())
  | .image url alt width => (url, alt, width, ())
  | .button text url color => (text, url, color, ())
  | .divider color margin => (color, margin, ())
  | .spacer height => (height, ())
  | .list items color => (items, color, ())
  | .footer text => (text, ())

@[simp] theorem kind_ofRecord (kind : Kind) (record : Record kind.fields) :
    (ofRecord kind record).kind = kind := by
  cases kind <;> rfl

@[simp] theorem ofRecord_toRecord (content : Content) :
    ofRecord content.kind content.toRecord = content := by
  cases content <;> rfl

end Content
end MailTemplate
