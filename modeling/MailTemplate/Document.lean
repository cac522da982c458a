import MailTemplate.Block
import MailTemplate.Theme

/-!
# Documents

* `Document`: the blocks of a template in order, and their theme;
* `Document.indexOf?` and `get?`: looking up a block by its id;
* `Document.read` and `readMember`: the document that a value, or a member of an object, describes;
  its ids differ from each other;
* `Document.toJson`: a document as JSON.
-/

namespace MailTemplate

/-- The blocks of a template in order, and the theme that they share. -/
structure Document where
  blocks : List Block
  theme : Theme
  deriving DecidableEq

namespace Document

/-- The model of a document. -/
def model : String := "Document"

/-- A document without blocks. -/
def empty : Document := ⟨[], .standard⟩

/-- The ids of the blocks, in order. -/
def ids (d : Document) : List String := d.blocks.map (·.id)

/-- The position of the first block with an id. -/
def indexOf? (d : Document) (id : String) : Option Nat := d.blocks.findIdx? (·.id = id)

/-- The first block with an id. -/
def get? (d : Document) (id : String) : Option Block := d.blocks.find? (·.id = id)

/-- The first id that stands in a list of ids for the second time, or that has been seen before. -/
def repeatedId? (seen : List String) : List String → Option String
  | [] => none
  | id :: ids => if seen.contains id then some id else repeatedId? (id :: seen) ids

/-- The names of the theme of a document. -/
def themeName : FieldName := { wire := "designSettings", other := "theme" }

/-- The blocks that values describe, the first of them at the given position. -/
def readBlocks (settings : Settings) : Nat → List Json → IdSource → Checked (List Block) × IdSource
  | _, [], source => (.ok [], source)
  | position, v :: vs, source =>
      let (block, source) := Block.readTagged settings v source
      let (blocks, source) := readBlocks settings (position + 1) vs source
      (((block.under (.index position)).both blocks).map fun (b, bs) => b :: bs, source)

/-- The blocks under the name `blocks` of an object, none if there is no such member. -/
def blocksOf (settings : Settings) (o : Json.Object) (source : IdSource) :
    Checked (List Block) × IdSource :=
  match o.get? "blocks" with
  | none => (.ok [], source)
  | some (.arr items) =>
      let (blocks, source) := readBlocks settings 0 items source
      (blocks.under (.key "blocks"), source)
  | some _ => (Checked.under (.key "blocks") (.fail .expectedSequence), source)

/-- A document, unless an id is repeated. -/
def ofParts : List Block × Theme → Checked Document
  | (blocks, theme) =>
      match repeatedId? [] (blocks.map (·.id)) with
      | some id => .fail (.repeatedId id)
      | none => .ok ⟨blocks, theme⟩

/-- The document that the members of an object describe. -/
def ofObject (settings : Settings) (o : Json.Object) (source : IdSource) :
    Checked Document × IdSource :=
  let (blocks, source) := blocksOf settings o source
  ((blocks.both (o.optional themeName .standard Theme.read)).bind ofParts, source)

/-- The document that a value describes. -/
def read (settings : Settings) (v : Json) (source : IdSource) : Checked Document × IdSource :=
  match v.asModel model with
  | .ok o => ofObject settings o source
  | .error issues => (.error issues, source)

/-- The document in the member `document` of an object, which must be there. -/
def readMember (settings : Settings) (o : Json.Object) (source : IdSource) :
    Checked Document × IdSource :=
  match o.get? "document" with
  | none => (Checked.under (.key "document") (.fail .missing), source)
  | some v =>
      let (d, source) := read settings v source
      (d.under (.key "document"), source)

/-- A document as the members of an object. -/
def toObject (d : Document) : Json.Object :=
  [("blocks", .arr (d.blocks.map Block.toJson)), ("designSettings", .obj d.theme.toObject)]

/-- A document as JSON. -/
def toJson (d : Document) : Json := .obj d.toObject

end Document
end MailTemplate
