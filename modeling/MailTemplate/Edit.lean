import MailTemplate.Document
import MailTemplate.Failure

/-!
# Edits

Every edit makes a new document; the old one stays as it is.

* `Document.insert`, `update`, `move`, `duplicate`, `remove` and `restyle`;
* `Edit`: one of these with its arguments;
* `Edit.apply`: its result, in which `none` stands for the very document that was given.
-/

namespace MailTemplate
namespace Document

/-- The index that an integer is in a document. -/
def position? (d : Document) (n : Int) : Option Nat :=
  if 0 ≤ n && n < d.blocks.length then some n.toNat else none

/-- A new block of a kind at the end, with the attributes of its kind and a fresh id. The id is
drawn before the kind is looked at. -/
def insert (settings : Settings) (d : Document) (kind : Json) (source : IdSource) :
    Except Failure Document × IdSource :=
  let (id, source) := source.fresh kind.display d.ids
  let result := (Kind.resolve kind).map fun kind =>
    { d with blocks := d.blocks ++ [⟨id, .standard settings kind⟩] }
  (result, source)

/-- The block with an id gets the given attributes and keeps its others. -/
def update (d : Document) (id changes : Json) : Except Failure Document :=
  match id.text?.bind d.indexOf? with
  | none => .error (.unknownBlock id)
  | some i =>
      match d.blocks[i]?, changes with
      | some block, .obj changes =>
          ((block.attributes.revise changes).orInvalid block.kind.attributesModel).map
            fun attributes => { d with blocks := d.blocks.set i { block with attributes } }
      | _, _ => .error .notAnObject

/-- A list with the items at two positions exchanged. -/
def exchange {α : Type} (items : List α) (i j : Nat) : List α :=
  match items[i]?, items[j]? with
  | some a, some b => (items.set i b).set j a
  | _, _ => items

/-- The blocks at an index and at some offset from it exchanged, if both are there. -/
def move (d : Document) (index offset : Int) : Option Document :=
  if offset = 0 then none
  else
    match d.position? index, d.position? (index + offset) with
    | some i, some j => some { d with blocks := exchange d.blocks i j }
    | _, _ => none

/-- A copy of the block at an index right after it, under a fresh id. -/
def duplicate (d : Document) (index : Int) (source : IdSource) :
    Except Failure Document × IdSource :=
  match d.position? index with
  | none => (.error (.outside index d.blocks.length), source)
  | some i =>
      match d.blocks[i]? with
      | none => (.error (.outside index d.blocks.length), source)
      | some block =>
          let (id, source) := source.fresh block.kind.name d.ids
          (.ok { d with blocks := d.blocks.insertIdx (i + 1) { block with id } }, source)

/-- The document without the blocks with an id, if there is one. -/
def remove (d : Document) (id : Json) : Option Document := do
  let name ← id.text?
  let _ ← d.indexOf? name
  some { d with blocks := d.blocks.filter (·.id ≠ name) }

/-- The document with some fields of its theme replaced. -/
def restyle (d : Document) (changes : Json.Object) : Except Failure Document :=
  ((d.theme.revise changes).orInvalid Theme.model).map fun theme => { d with theme }

end Document

/-- An edit as it is asked for: its arguments may be of any type. -/
inductive Edit
  | insert (kind : Json)
  | update (id changes : Json)
  | move (index offset : Int)
  | duplicate (index : Int)
  | remove (id : Json)
  | restyle (changes : Json)

namespace Edit

/-- The name that a change of a theme cannot have. -/
def reservedNames : List String := ["document"]

/-- The edited document, or `none` where nothing is to be changed. -/
def apply (settings : Settings) (d : Document) (edit : Edit) (source : IdSource) :
    Except Failure (Option Document) × IdSource :=
  match edit with
  | .insert kind =>
      let (result, source) := d.insert settings kind source
      (result.map some, source)
  | .update id changes => ((d.update id changes).map some, source)
  | .move index offset => (.ok (d.move index offset), source)
  | .duplicate index =>
      let (result, source) := d.duplicate index source
      (result.map some, source)
  | .remove id => (.ok (d.remove id), source)
  | .restyle changes =>
      (((changes.namedValues reservedNames).bind d.restyle).map some, source)

end Edit
end MailTemplate
