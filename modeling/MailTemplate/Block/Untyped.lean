import MailTemplate.Block

/-!
# Blocks of any type

* `UntypedBlock`: a block whose type is any text and whose attributes are any members;
* `UntypedBlock.read` and `toJson`: such a block from and as JSON.
-/

namespace MailTemplate

/-- A block whose type may be none of the kinds. -/
structure UntypedBlock where
  id : String
  type : String
  attributes : Json.Object

namespace UntypedBlock

/-- The model of a block of any type. -/
def model : String := "BaseBlock"

/-- The model of the attributes of a block of any type. -/
def attributesModel : String := "BlockAttributes"

/-- The word that stands for an absent type in a fresh id. -/
def absentType : String := "block"

/-- The word for the type of an object in a fresh id. -/
def idKind (o : Json.Object) : String :=
  match (o.get? "type").filter Json.isTruthy with
  | some v => v.display
  | none => absentType

/-- The block that the members of an object describe. -/
def ofObject (o : Json.Object) (ids : IdSource) : Checked UntypedBlock × IdSource :=
  let (id, rest) := Block.readId (idKind o) o ids
  let type := o.required { wire := "type" } Json.asText
  let attributes := o.optional Block.attributesName [] (Json.asModel attributesModel)
  ((id.both (type.both attributes)).map fun (id, type, attributes) => ⟨id, type, attributes⟩, rest)

/-- The block that a value describes. -/
def read (v : Json) (ids : IdSource) : Checked UntypedBlock × IdSource :=
  match v.asModel model with
  | .ok o => ofObject o ids
  | .error issues => (.error issues, ids)

/-- A block as JSON. -/
def toJson (block : UntypedBlock) : Json :=
  .obj [("id", .str block.id), ("type", .str block.type), ("content", .obj block.attributes)]

end UntypedBlock
end MailTemplate
