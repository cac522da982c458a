import MailTemplate.Attributes

/-!
# Schemas of attributes

* `Schema.ofType`: the JSON Schema of the values of a type;
* `Schema.title`: the title of a field, made of its name;
* `Kind.schema`: the JSON Schema of the attributes of a kind.
-/

namespace MailTemplate
namespace Schema

/-- A schema that allows the values of one JSON type. -/
def typed (name : String) : Json.Object := [("type", .str name)]

/-- The schema of the values of a type. -/
def ofType : FieldType → Json.Object
  | .text => typed "string"
  | .pixels =>
      [("anyOf", .arr [.obj (typed "integer"), .obj (typed "number"), .obj (typed "string")])]
  | .texts => ("items", .obj (typed "string")) :: typed "array"
  | .within _ => typed "integer"

/-- A name with a capital at its start and small letters elsewhere. -/
def title (name : String) : String :=
  match name.toList with
  | [] => ""
  | c :: cs => String.ofList (c.toUpper :: cs.map Char.toLower)

/-- Whether the default of a field is made anew for each block, so that a schema does not show it:
that of a list, which may be changed later, and that of a footer, which names the year. -/
def isMadeAnew (kind : Kind) (field : Field) : Bool :=
  match kind, field.type with
  | _, .texts => true
  | .footer, _ => true
  | _, _ => false

/-- The schema of a field with a default. -/
def ofField (kind : Kind) (field : Field) (default : Json) : Json :=
  .obj ((if isMadeAnew kind field then [] else [("default", default)]) ++
    ("title", .str (title field.name.wire)) :: ofType field.type)

end Schema

/-- The schema of the attributes of a kind, which allows members beside the declared fields. -/
def Kind.schema (settings : Settings) (kind : Kind) : Json :=
  let defaults := Record.toObject kind.fields (kind.defaults settings)
  .obj [("additionalProperties", .bool true),
    ("properties", .obj (kind.fields.zipWith
      (fun field (name, default) => (name, Schema.ofField kind field default)) defaults)),
    ("title", .str kind.attributesModel), ("type", .str "object")]

end MailTemplate
