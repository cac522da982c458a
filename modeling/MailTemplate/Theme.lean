import MailTemplate.Record

/-!
# Themes

* `Theme`: the colors, the sizes and the font shared by all blocks of a document;
* `Theme.fields` and `Theme.standard`: its declared fields, and a theme that sets none of them;
* `Theme.read` and `Theme.toObject`: a theme as JSON. A size out of bounds becomes the nearest
  bound, and unknown members are passed over.
-/

namespace MailTemplate

/-- The widths that the column of a template may have. -/
def contentWidthBounds : Bounds := { low := 480, high := 700 }

/-- The radii that the corners of the column may have. -/
def borderRadiusBounds : Bounds := { low := 0, high := 24 }

/-- What all blocks of a document share. -/
structure Theme where
  backgroundColor : String
  contentBackground : String
  primaryColor : String
  secondaryColor : String
  footerBackground : String
  contentWidth : Bounded contentWidthBounds
  borderRadius : Bounded borderRadiusBounds
  fontFamily : String
  deriving DecidableEq

namespace Theme

/-- The model of a theme. -/
def model : String := "ThemeParameters"

/-- The declared fields of a theme. -/
@[reducible] def fields : List Field :=
  [⟨⟨"backgroundColor", "background_color"⟩, .text⟩,
   ⟨⟨"contentBackground", "content_background"⟩, .text⟩,
   ⟨⟨"primaryColor", "primary_color"⟩, .text⟩,
   ⟨⟨"secondaryColor", "secondary_color"⟩, .text⟩,
   ⟨⟨"footerBackground", "footer_background"⟩, .text⟩,
   ⟨⟨"contentWidth", "content_width"⟩, .within contentWidthBounds⟩,
   ⟨⟨"borderRadius", "border_radius"⟩, .within borderRadiusBounds⟩,
   ⟨⟨"fontFamily", "font_family"⟩, .text⟩]

/-- The theme with the given fields. -/
def ofRecord : Record fields → Theme
  | (background, content, primary, secondary, footer, width, radius, font, ()) =>
      ⟨background, content, primary, secondary, footer, width, radius, font⟩

/-- The fields of a theme. -/
def toRecord (t : Theme) : Record fields :=
  (t.backgroundColor, t.contentBackground, t.primaryColor, t.secondaryColor, t.footerBackground,
    t.contentWidth, t.borderRadius, t.fontFamily, ())

@[simp] theorem ofRecord_toRecord (t : Theme) : ofRecord t.toRecord = t := rfl

@[simp] theorem toRecord_ofRecord (r : Record fields) : (ofRecord r).toRecord = r := rfl

/-- The theme of a document that sets nothing. -/
def standard : Theme where
  backgroundColor := "#f8fafc"
  contentBackground := "#ffffff"
  primaryColor := "#6366f1"
  secondaryColor := "#8b5cf6"
  footerBackground := "#f1f5f9"
  contentWidth := .clamp _ 600
  borderRadius := .clamp _ 16
  fontFamily := "-apple-system, BlinkMacSystemFont, 'Segoe UI', Roboto, sans-serif"

/-- The theme that the members of an object describe. -/
def ofObject (o : Json.Object) : Checked Theme :=
  (Record.read fields standard.toRecord o).map ofRecord

/-- The theme that a value describes. -/
def read (v : Json) : Checked Theme := do ofObject (← v.asModel model)

/-- A theme as an object, with all its fields. -/
def toObject (t : Theme) : Json.Object := Record.toObject fields t.toRecord

/-- A theme with some fields replaced, under either of their names. -/
def revise (t : Theme) (changes : Json.Object) : Checked Theme :=
  ofObject (Json.Object.merge t.toObject (Record.toWire fields changes))

end Theme
end MailTemplate
