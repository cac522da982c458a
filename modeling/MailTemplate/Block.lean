import MailTemplate.Attributes
import MailTemplate.Failure
import MailTemplate.IdSource

/-!
# Blocks

* `Block`: attributes with an id;
* `Block.readId`: the id in an object, or a fresh one where it is absent or empty;
* `Block.read`: a block of a kind;
* `Block.readTagged` and `Block.resolve`: a block of the kind that it names, an unknown kind being an
  issue of the block or a failure of its own;
* `Block.make`: a block of a kind from separate parts;
* `Block.toJson`: a block as JSON.
-/

namespace MailTemplate

/-- Attributes with an id. -/
structure Block where
  id : String
  attributes : Attributes
  deriving DecidableEq

namespace Block

/-- The kind of a block. -/
def kind (block : Block) : Kind := block.attributes.content.kind

/-- The id in an object; where there is none, or an empty value, one is drawn. -/
def readId (kind : String) (o : Json.Object) (ids : IdSource) : Checked String × IdSource :=
  match (o.get? "id").filter Json.isTruthy with
  | some v => (v.asText.under (.key "id"), ids)
  | none =>
      let (id, rest) := ids.draw kind
      (.ok id, rest)

/-- The names of the attributes of a block. -/
def attributesName : FieldName := { wire := "content", other := "attributes" }

/-- The block of a kind that the members of an object describe. -/
def ofObject (settings : Settings) (kind : Kind) (o : Json.Object) (ids : IdSource) :
    Checked Block × IdSource :=
  let (id, rest) := readId kind.name o ids
  let attributes :=
    o.optional attributesName (.standard settings kind) (Attributes.read settings kind)
  ((id.both attributes).map fun (id, attributes) => ⟨id, attributes⟩, rest)

/-- The block of a kind that a value describes. -/
def read (settings : Settings) (kind : Kind) (v : Json) (ids : IdSource) :
    Checked Block × IdSource :=
  match v.asModel kind.blockModel with
  | .ok o => ofObject settings kind o ids
  | .error issues => (.error issues, ids)

/-- The block that a value describes, of the kind that it names; issues inside it lie under that
name. -/
def readTagged (settings : Settings) (v : Json) (ids : IdSource) : Checked Block × IdSource :=
  match Kind.asTagged v with
  | .ok (kind, o) =>
      let (block, rest) := ofObject settings kind o ids
      (block.under (.key kind.name), rest)
  | .error issues => (.error issues, ids)

/-- The block that a value describes, of the kind that its type names. -/
def resolve (settings : Settings) (v : Json) (ids : IdSource) : Except Failure Block × IdSource :=
  match v with
  | .obj o =>
      match Kind.resolve ((Json.Object.get? o "type").getD .null) with
      | .error failure => (.error failure, ids)
      | .ok kind =>
          let (block, rest) := ofObject settings kind o ids
          (block.orInvalid kind.blockModel, rest)
  | _ => (.error .notAnObject, ids)

/-- A block of a kind with the given attributes and id, of which empty values count as absent. -/
def make (settings : Settings) (kind : Kind) (attributes id : Json) (ids : IdSource) :
    Checked Block × IdSource :=
  let content := if attributes.isTruthy then attributes else .obj []
  ofObject settings kind [("type", .str kind.name), ("content", content), ("id", id)] ids

/-- A block as JSON. -/
def toJson (block : Block) : Json :=
  .obj [("id", .str block.id), ("type", .str block.kind.name),
    ("content", .obj block.attributes.toObject)]

end Block
end MailTemplate
