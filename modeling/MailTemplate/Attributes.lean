import MailTemplate.Content

/-!
# The attributes of blocks

* `Attributes`: a content, and the members that its kind does not declare;
* `Attributes.ofObject` and `read`: attributes from JSON, with a default for each absent field;
* `Attributes.toObject`: the declared fields, then the others;
* `Attributes.revise`: attributes with some members replaced.
-/

namespace MailTemplate

/-- A content, and the members beside its declared fields, which are kept as they are. -/
structure Attributes where
  content : Content
  extra : Json.Object
  deriving DecidableEq

namespace Attributes

/-- What a new block of a kind has. -/
def standard (settings : Settings) (kind : Kind) : Attributes :=
  ⟨.ofRecord kind (kind.defaults settings), []⟩

/-- The attributes that the members of an object describe. -/
def ofObject (kind : Kind) (defaults : Record kind.fields) (o : Json.Object) :
    Checked Attributes :=
  (Record.read kind.fields defaults o).map fun record =>
    ⟨.ofRecord kind record, Record.unused kind.fields o⟩

/-- The attributes that a value describes. -/
def read (settings : Settings) (kind : Kind) (v : Json) : Checked Attributes := do
  ofObject kind (kind.defaults settings) (← v.asModel kind.attributesModel)

/-- All attributes as the members of an object. -/
def toObject (a : Attributes) : Json.Object :=
  Record.toObject a.content.kind.fields a.content.toRecord ++ a.extra

/-- The attributes with some members replaced. A field may be named in either way, and of several
members for one field the last one counts. -/
def revise (a : Attributes) (changes : Json.Object) : Checked Attributes :=
  let fields := a.content.kind.fields
  ofObject a.content.kind a.content.toRecord
    (Json.Object.merge a.toObject (Record.toWire fields changes))

end Attributes
end MailTemplate
