import MailTemplate.Bounded
import MailTemplate.Json.Typed

/-!
# Records of declared fields

A table of fields fixes what a record holds, how it is read from an object and how it is written.

* `FieldType` and its `Carrier`: texts, lengths, lists of texts and bounded integers;
* `Record`: one value for each field of a table;
* `Record.read`: each field from its member, or else from a record of defaults;
* `Record.toObject`: each field under its name on the wire;
* `Record.unused`: the members that hold no field.
-/

namespace MailTemplate

/-- The type of a declared field. -/
inductive FieldType
  | text
  | pixels
  | texts
  | within (bounds : Bounds)

namespace FieldType

/-- The values of a type. -/
@[reducible] def Carrier : FieldType → Type
  | .text => String
  | .pixels => Pixels
  | .texts => List String
  | .within bounds => Bounded bounds

instance instDecidableEqCarrier : (type : FieldType) → DecidableEq type.Carrier
  | .text => inferInstanceAs (DecidableEq String)
  | .pixels => inferInstanceAs (DecidableEq Pixels)
  | .texts => inferInstanceAs (DecidableEq (List String))
  | .within bounds => inferInstanceAs (DecidableEq (Bounded bounds))

/-- Read a value of a type; an integer out of bounds becomes the nearest bound. -/
def read : (type : FieldType) → Json → Checked type.Carrier
  | .text, v => v.asText
  | .pixels, v => v.asPixels
  | .texts, v => v.asTexts
  | .within bounds, v => v.asInteger.map (Bounded.clamp bounds)

/-- The value as JSON. -/
def toJson : (type : FieldType) → type.Carrier → Json
  | .text, s => .str s
  | .pixels, p => p.toJson
  | .texts, items => .arr (items.map .str)
  | .within _, n => .int n.val

end FieldType

/-- A declared field. -/
structure Field where
  name : FieldName
  type : FieldType

/-- A value for each field of a table. -/
@[reducible] def Record : List Field → Type
  | [] => Unit
  | f :: fs => f.type.Carrier × Record fs

namespace Record

instance instDecidableEq : (fields : List Field) → DecidableEq (Record fields)
  | [] => inferInstanceAs (DecidableEq Unit)
  | f :: fs =>
      have := instDecidableEq fs
      inferInstanceAs (DecidableEq (f.type.Carrier × Record fs))

/-- Each field from the member that holds it, or else from the defaults. -/
def read : (fields : List Field) → Record fields → Json.Object → Checked (Record fields)
  | [], (), _ => .ok ()
  | f :: fs, (value, values), o =>
      (o.optional f.name value f.type.read).both (read fs values o)

/-- Each field under its name on the wire. -/
def toObject : (fields : List Field) → Record fields → Json.Object
  | [], () => []
  | f :: fs, (value, values) => (f.name.wire, f.type.toJson value) :: toObject fs values

/-- The names of the members of an object that hold a field. -/
def usedNames (fields : List Field) (o : Json.Object) : List String :=
  fields.filterMap fun f => (o.find? f.name).map (·.1)

/-- The members of an object that hold no field. A field found under its name on the wire leaves a
member of its other name unused. -/
def unused (fields : List Field) (o : Json.Object) : Json.Object :=
  o.filter fun (name, _) => !(usedNames fields o).contains name

/-- The name on the wire of the field that a name denotes, or the name itself. -/
def wireName (fields : List Field) (name : String) : String :=
  match fields.find? fun f => f.name.other = name with
  | some f => f.name.wire
  | none => name

/-- An object with the fields of a table under their names on the wire. -/
def toWire (fields : List Field) (o : Json.Object) : Json.Object :=
  o.map fun (name, value) => (wireName fields name, value)

end Record
end MailTemplate
