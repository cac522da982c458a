import MailTemplate.Failure

/-!
# Warnings

* `Warning`: what an operation repairs or leaves out while it goes on;
* `Warning.message?` and `message`: its wording.
-/

namespace MailTemplate

/-- What an operation repairs or leaves out. -/
inductive Warning
  /-- A stored block has none of the kinds as its type. -/
  | skippedBlock (type : Json)
  /-- A stored id has been used before. -/
  | replacedId (id : Json)
  /-- The content of a stored block is no object. -/
  | unreadableContent (id : Json)
  /-- An attribute of a stored block has a value of the wrong type. -/
  | invalidAttribute (name : String) (id : Json)
  /-- An update refers to a block that is not there. -/
  | staleUpdate (failure : Failure)
  /-- A duplication refers to a position that is not there. -/
  | staleDuplicate (failure : Failure)
  /-- A block has values that cannot be shown. -/
  | unshownBlock (id : Json) (kind : Kind)
  /-- A block of no known kind has no HTML. -/
  | unknownHtml (type : String)
  /-- A block of no known kind has no plain text. -/
  | unknownText (type : String)
  deriving DecidableEq

namespace Warning

/-- The wording of a warning. A value without a text cannot be worded. -/
def message? : Warning → Option String
  | skippedBlock type =>
      type.literal?.map fun type => "load_document: bloc ignoré (type " ++ type ++ ")"
  | replacedId id =>
      id.literal?.map fun id => "load_document: id en double " ++ id ++ ", nouvel id attribué"
  | unreadableContent id =>
      id.display?.map fun id =>
        "load_document: contenu illisible pour " ++ id ++ ", défauts appliqués"
  | invalidAttribute name id =>
      id.display?.map fun id =>
        "load_document: attribut " ++ Text.quoted name ++ " invalide sur " ++ id ++
          ", défaut appliqué"
  | staleUpdate failure => failure.message?.map ("update ignoré (référence périmée) : " ++ ·)
  | staleDuplicate failure => failure.message?.map ("duplicate ignoré (référence périmée) : " ++ ·)
  | unshownBlock id kind =>
      id.display?.map fun id =>
        "render_block: échec du rendu de " ++ id ++ " (" ++ kind.name ++ ")"
  | unknownHtml type => some ("render_block: type non géré " ++ Text.quoted type)
  | unknownText type => some ("render_block_text: type non géré " ++ Text.quoted type)

/-- The wording of a warning, empty if it has none. -/
def message (warning : Warning) : String := warning.message?.getD ""

end Warning
end MailTemplate
