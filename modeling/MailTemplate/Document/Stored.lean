import MailTemplate.Document
import MailTemplate.Warning

/-!
# Stored documents

A stored document may be older than the kinds, repeat ids or hold invalid attributes. It is repaired
first, with a warning for each repair, and then read as any document.

* `Stored.keptMembers`: the attributes of a stored block that are valid on their own;
* `Stored.Repair` and `Stored.repairBlock`: the blocks kept so far, and one more block;
* `Document.load`: the document that a stored value describes.
-/

namespace MailTemplate
namespace Stored

/-- The members of a stored content that are neither null nor invalid, and a warning for each
invalid one. -/
def keptMembers (settings : Settings) (kind : Kind) (id : Json) :
    Json.Object → Json.Object × List Warning
  | [] => ([], [])
  | (name, value) :: o =>
      let (kept, warnings) := keptMembers settings kind id o
      if value = .null then (kept, warnings)
      else
        match Attributes.ofObject kind (kind.defaults settings) [(name, value)] with
        | .ok _ => ((name, value) :: kept, warnings)
        | .error _ => (kept, .invalidAttribute name id :: warnings)

/-- The attributes kept of a stored content. -/
def keptContent (settings : Settings) (kind : Kind) (id : Json) : Json →
    Json.Object × List Warning
  | .obj o => keptMembers settings kind id o
  | .null => ([], [])
  | _ => ([], [.unreadableContent id])

/-- What has been repaired: the blocks kept and their ids, in order. -/
structure Repair where
  blocks : List Json
  seen : List Json
  source : IdSource
  warnings : List Warning

/-- The value of a member, null if there is none. -/
def member (o : Json.Object) (name : String) : Json := (o.get? name).getD .null

/-- The content of a stored block, under either of its names. -/
def contentOf (o : Json.Object) : Json :=
  ((o.find? Block.attributesName).map (·.2)).getD .null

namespace Repair

/-- Leave a block out. -/
def skip (r : Repair) (type : Json) : Repair :=
  { r with warnings := r.warnings ++ [.skippedBlock type] }

/-- Keep a block under an id. -/
def keep (settings : Settings) (r : Repair) (kind : Kind) (o : Json.Object) (id : Json) : Repair :=
  let (content, warnings) := keptContent settings kind id (contentOf o)
  { r with
    blocks := r.blocks ++
      [.obj [("id", id), ("type", .str kind.name), ("content", .obj content)]]
    seen := r.seen ++ [id]
    warnings := r.warnings ++ warnings }

/-- Keep a block under an id that has not been seen. -/
def keepFresh (settings : Settings) (r : Repair) (kind : Kind) (o : Json.Object) : Repair :=
  let (id, source) := r.source.fresh kind.name (r.seen.filterMap Json.text?)
  keep settings { r with source := source } kind o (.str id)

/-- Keep a block of a kind, under its own id unless that is empty or has been seen. -/
def keepBlock (settings : Settings) (r : Repair) (kind : Kind) (o : Json.Object) :
    Repair × Option Failure :=
  let id := member o "id"
  if !id.isTruthy then (keepFresh settings r kind o, none)
  else if !id.isScalar then (r, some .notScalar)
  else if r.seen.any (·.sameKey id) then
    (keepFresh settings { r with warnings := r.warnings ++ [.replacedId id] } kind o, none)
  else (keep settings r kind o id, none)

end Repair

/-- Keep a stored block or leave it out. Empty types are like unknown ones. -/
def repairBlock (settings : Settings) (r : Repair) : Json → Repair × Option Failure
  | .obj o =>
      let type := member o "type"
      if !type.isTruthy then (r.skip type, none)
      else
        match Kind.resolve type with
        | .ok kind => r.keepBlock settings kind o
        | .error (.unknownKind _) => (r.skip type, none)
        | .error failure => (r, some failure)
  | _ => (r.skip .null, none)

/-- Repair stored blocks in order, up to the first one that cannot be looked up. -/
def repairBlocks (settings : Settings) (r : Repair) : List Json → Repair × Option Failure
  | [] => (r, none)
  | v :: vs =>
      match repairBlock settings r v with
      | (r, none) => repairBlocks settings r vs
      | (r, some failure) => (r, some failure)

/-- The items of the stored blocks: none for an empty value; the items of a text or an object, which
are no blocks, count as well. -/
def items (blocks : Json) : Except Failure (List Json) :=
  if !blocks.isTruthy then .ok []
  else
    match blocks with
    | .arr items => .ok items
    | .str s => .ok (s.toList.map fun c => .str (String.singleton c))
    | .obj o => .ok (o.map fun (name, _) => .str name)
    | _ => .error .notIterable

/-- The stored theme, an empty object for an empty value. -/
def themeOf (o : Json.Object) : Json :=
  match o.find? Document.themeName with
  | some (_, v) => if v.isTruthy then v else .obj []
  | none => .obj []

/-- What loading gives: a document or a failure, and what has been drawn and warned of. -/
structure Loading where
  result : Except Failure Document
  source : IdSource
  warnings : List Warning

end Stored

namespace Document

/-- The document that a stored value describes, repaired where that is possible. -/
def load (settings : Settings) (v : Json) (source : IdSource) : Stored.Loading :=
  match v with
  | .obj o =>
      match Stored.items (Stored.member o "blocks") with
      | .error failure => ⟨.error failure, source, []⟩
      | .ok items =>
          match Stored.repairBlocks settings ⟨[], [], source, []⟩ items with
          | (r, some failure) => ⟨.error failure, r.source, r.warnings⟩
          | (r, none) =>
              let (d, source) := ofObject settings
                [("blocks", .arr r.blocks), ("designSettings", Stored.themeOf o)] r.source
              ⟨d.orInvalid model, source, r.warnings⟩
  | _ => ⟨.error .notAnObject, source, []⟩

end Document
end MailTemplate
