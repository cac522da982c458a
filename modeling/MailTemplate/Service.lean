import MailTemplate.Catalog
import MailTemplate.Compiled
import MailTemplate.Document.Starter
import MailTemplate.Session

/-!
# The editing service

* `Operation` and `EditRequest`: an edit in typed form, and a document to apply it to;
* `FinalizeRequest`: a document to be stored, with its metadata;
* `Service.edit`: the answer to an edit request, found by a session of a single command;
* `Service.Endpoint` and `Service.answer`: all requests, and the answers to them.
-/

namespace MailTemplate

/-- An edit in typed form. -/
inductive Operation
  | insert (kind : Kind)
  | update (id : String) (changes : Json.Object)
  | move (index offset : Int)
  | duplicate (index : Int)
  | remove (id : String)

/-- The names of the operations. -/
inductive OperationName
  | insert
  | update
  | move
  | duplicate
  | remove
  deriving DecidableEq

namespace OperationName

/-- The name in requests. -/
def name : OperationName → String
  | insert => "insert"
  | update => "update"
  | move => "move"
  | duplicate => "duplicate"
  | remove => "remove"

/-- The operations, in the order in which they are listed. -/
def all : List OperationName := [insert, update, move, duplicate, remove]

end OperationName

namespace Operation

/-- The names of the id of a block in a request. -/
def blockId : FieldName := { wire := "blockId", other := "block_id" }

/-- The operation of a name that the members of an object describe. -/
def ofObject (o : Json.Object) : OperationName → Checked Operation
  | .insert =>
      (o.required { wire := "kind" } (Json.asChoice Kind.name Kind.all)).map insert
  | .update =>
      ((o.required blockId Json.asText).both
        (o.optional { wire := "attributes" } [] Json.asDictionary)).map
          fun (id, changes) => update id changes
  | .move =>
      ((o.required { wire := "index" } Json.asInteger).both
        (o.required { wire := "offset" } Json.asInteger)).map
          fun (index, offset) => move index offset
  | .duplicate => (o.required { wire := "index" } Json.asInteger).map duplicate
  | .remove => (o.required blockId Json.asText).map remove

/-- The operation that a value describes; issues inside it lie under its name. -/
def read (v : Json) : Checked Operation := do
  let (name, o) ← Json.asTagged "op" OperationName.name OperationName.all v
  (ofObject o name).under (.key name.name)

/-- The command of a session. -/
def command : Operation → Session.Command
  | insert kind => .insert (.str kind.name)
  | update id changes => .update (.str id) (.obj changes)
  | move index offset => .move index offset
  | duplicate index => .duplicate index
  | remove id => .remove (.str id)

end Operation

/-- A document and an edit of it. -/
structure EditRequest where
  document : Document
  operation : Operation

namespace EditRequest

/-- The model of an edit request. -/
def model : String := "EditRequest"

/-- The request that a value describes. -/
def read (settings : Settings) (v : Json) (source : IdSource) : Checked EditRequest × IdSource :=
  match v.asModel model with
  | .error issues => (.error issues, source)
  | .ok o =>
      let (document, source) := Document.readMember settings o source
      ((document.both (o.required { wire := "operation" } Operation.read)).map
        fun (document, operation) => ⟨document, operation⟩, source)

end EditRequest

/-- A document and the metadata of its record. -/
structure FinalizeRequest where
  metadata : Metadata
  document : Document

namespace FinalizeRequest

/-- The model of a request for a record. -/
def model : String := "FinalizeRequest"

/-- The request that a value describes. -/
def read (settings : Settings) (v : Json) (source : IdSource) :
    Checked FinalizeRequest × IdSource :=
  match v.asModel model with
  | .error issues => (.error issues, source)
  | .ok o =>
      let (document, source) := Document.readMember settings o source
      (((o.required { wire := "metadata" } Metadata.read).both document).map
        fun (metadata, document) => ⟨metadata, document⟩, source)

end FinalizeRequest

namespace Service

/-- Why a request has no answer. -/
inductive Refusal
  /-- The body of the request is not valid, or an operation fails. -/
  | failed (failure : Failure)
  /-- The request names a block that the document does not have. -/
  | notFound (message : String)
  /-- The attributes of an update are not valid. -/
  | unprocessable (failure : Failure)
  deriving DecidableEq

/-- What a request gives. -/
structure Response where
  result : Except Refusal Json
  source : IdSource
  warnings : List Warning

/-- An edited document and the index of the selected block. -/
structure Edited where
  document : Document
  selected : Option Nat
  deriving DecidableEq

/-- The edited document as JSON. -/
def Edited.toJson (e : Edited) : Json :=
  .obj [("document", e.document.toJson),
    ("selectedIndex", (Session.Reply.index e.selected).toJson)]

/-- What the outcome of an operation means for a request: an update and a duplication must find
their block, and an update selects it. -/
def judge (operation : Operation) (outcome : Session.Outcome) : Except Refusal Edited :=
  let edited (s : Session) : Except Refusal Edited := .ok ⟨s.document, s.selected⟩
  match operation, outcome.reply with
  | .update _ _, .error failure => .error (.unprocessable failure)
  | _, .error failure => .error (.failed failure)
  | .update id _, .ok (.done false) => .error (.notFound ("Bloc introuvable : " ++ id))
  | .update id _, .ok _ =>
      edited { outcome.session with selected := outcome.session.document.indexOf? id }
  | .duplicate index, .ok (.index none) =>
      .error (.notFound ("Index hors document : " ++ toString index))
  | _, .ok _ => edited outcome.session

/-- The document of a request after its operation, found by a session of a single command. -/
def edit (settings : Settings) (request : EditRequest) (source : IdSource) :
    Except Refusal Edited × Session.Outcome :=
  let outcome :=
    (Session.start request.document Session.defaultLimit).run settings request.operation.command
      source
  (judge request.operation outcome, outcome)

/-- How many issues there are, in words. -/
def summary (issues : List Issue) : String :=
  toString issues.length ++ " validation error" ++ (if issues.length = 1 then "" else "s") ++
    " for " ++ Document.model

/-- A step of a path as JSON. -/
def stepJson : PathStep → Json
  | .key name => .str name
  | .index position => .int position

/-- An issue as JSON. -/
def issueJson (issue : Issue) : Json :=
  .obj [("type", .str issue.fault.code), ("loc", .arr (issue.path.map stepJson)),
    ("msg", .str issue.fault.message)]

/-- Whether a document is valid, with all issues if it is not. -/
def validity : Checked Document → Json
  | .ok _ => .obj [("valid", .bool true)]
  | .error issues =>
      .obj [("valid", .bool false), ("error", .str (summary issues)),
        ("errors", .arr (issues.map issueJson))]

/-- A kind of request. -/
inductive Endpoint
  | catalog
  | starter
  | render
  | renderText
  | listVariables
  | validate
  | edit
  | finalize
  deriving DecidableEq

namespace Endpoint

/-- The path of a kind of request. -/
def path : Endpoint → String
  | catalog => "catalog"
  | starter => "starter"
  | render => "render"
  | renderText => "render/text"
  | listVariables => "variables"
  | validate => "validate"
  | edit => "edit"
  | finalize => "finalize"

/-- All kinds of requests. -/
def all : List Endpoint :=
  [catalog, starter, render, renderText, listVariables, validate, edit, finalize]

/-- The kind of request of a path. -/
def ofPath? (s : String) : Option Endpoint := all.find? fun endpoint => endpoint.path = s

end Endpoint

/-- The answer made of a checked value of a model. -/
def respond {α : Type} (model : String) (value : Checked α × IdSource) (answer : α → Json) :
    Response :=
  match value with
  | (.ok a, source) => ⟨.ok (answer a), source, []⟩
  | (.error issues, source) => ⟨.error (.failed (.invalid model issues)), source, []⟩

/-- The answer to a request with a body; a page to be rendered also has a title. -/
def answer (settings : Settings) (endpoint : Endpoint) (body : Json) (title : String)
    (source : IdSource) : Response :=
  let document (f : Document → Json) : Response :=
    respond Document.model (Document.read settings body source) f
  match endpoint with
  | .catalog => ⟨.ok (Catalog.toJson settings), source, []⟩
  | .starter =>
      respond Document.model (Document.starter settings .null .standard source) Document.toJson
  | .render => document fun d => .str (d.render settings title)
  | .renderText => document fun d => .str d.plainText
  | .listVariables => document fun d =>
      .obj [("variables", .arr ((Variable.ofText (d.render settings "")).map Variable.toJson))]
  | .validate =>
      let (d, source) := Document.read settings body source
      ⟨.ok (validity d), source, []⟩
  | .edit =>
      match EditRequest.read settings body source with
      | (.error issues, source) =>
          ⟨.error (.failed (.invalid EditRequest.model issues)), source, []⟩
      | (.ok request, source) =>
          let (result, outcome) := edit settings request source
          ⟨result.map Edited.toJson, outcome.source, outcome.warnings⟩
  | .finalize =>
      respond FinalizeRequest.model (FinalizeRequest.read settings body source) fun request =>
        .obj (request.document.record settings request.metadata).toObject

/-- The version of the service. -/
def version : String := "0.1.0"

/-- The answer to the question whether the service is there. -/
def health : Json := .obj [("status", .str "ok"), ("version", .str version)]

end Service
end MailTemplate
