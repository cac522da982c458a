import MailTemplate.Schema
import MailTemplate.Theme
import MailTemplate.Variable

/-!
# The catalog of the editor

* `Catalog.toJson`: the kinds with their labels, defaults and schemas, the common variables, and the
  standard theme with its limits.
-/

namespace MailTemplate.Catalog

/-- What the palette says of a kind. -/
def entry (settings : Settings) (kind : Kind) : Json :=
  .obj [("type", .str kind.name), ("label", .str kind.label),
    ("defaults", .obj (Attributes.standard settings kind).toObject),
    ("schema", kind.schema settings)]

/-- The two limits of a size. -/
def limits (bounds : Bounds) : Json := .arr [.int bounds.low, .int bounds.high]

/-- The whole catalog. -/
def toJson (settings : Settings) : Json :=
  .obj [("blocks", .arr (Kind.all.map (entry settings))),
    ("variables", .arr (Variable.common.map .str)),
    ("theme", .obj Theme.standard.toObject),
    ("limits", .obj [("contentWidth", limits contentWidthBounds),
      ("borderRadius", limits borderRadiusBounds)])]

end MailTemplate.Catalog
