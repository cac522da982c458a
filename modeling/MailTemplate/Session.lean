import MailTemplate.Edit
import MailTemplate.Warning

/-!
# Editing sessions

A session holds a document, the earlier documents that can be restored, the later ones that were
left by restoring, and the index of the selected block.

* `Session`, `Session.start` and `Session.selectedBlock?`;
* `Session.commit`, `undo?` and `redo?`: the history of documents;
* `Session.Command` and `Session.Reply`: what a session is asked, and what it answers;
* `Session.run`: one command. A command that fails or is refused leaves the session as it is.
-/

namespace MailTemplate

/-- A document being edited. -/
structure Session where
  document : Document
  selected : Option Nat
  /-- The greatest number of earlier documents. -/
  limit : Int
  /-- The earlier documents, the latest first. -/
  past : List Document
  /-- The later documents, the earliest first. -/
  future : List Document
  deriving DecidableEq

namespace Session

/-- The number of earlier documents that are kept unless another limit is set. -/
def defaultLimit : Int := 100

/-- A session that has just begun. -/
def start (document : Document) (limit : Int) : Session := ⟨document, none, limit, [], []⟩

/-- The selected block. -/
def selectedBlock? (s : Session) : Option Block := s.selected.bind fun i => s.document.blocks[i]?

/-- Select the block at an index; an index outside the document selects nothing. -/
def select (s : Session) (index : Option Int) : Session :=
  { s with selected := index.bind s.document.position? }

/-- Earlier documents without the earliest one, if there are more than the limit. -/
def bounded (limit : Int) (past : List Document) : List Document :=
  if limit < past.length then past.dropLast else past

/-- Replace the document, so that it can be restored. -/
def commit (s : Session) (document : Document) : Session :=
  { s with document, past := bounded s.limit (s.document :: s.past), future := [] }

/-- Select the same index again, after the document has been replaced. -/
def reselect (s : Session) : Session := s.select (s.selected.map fun i => (i : Int))

/-- Restore the latest of the earlier documents. -/
def undo? (s : Session) : Option Session :=
  match s.past with
  | [] => none
  | d :: past =>
      some (reselect { s with document := d, past, future := s.document :: s.future })

/-- Return to the earliest of the later documents. -/
def redo? (s : Session) : Option Session :=
  match s.future with
  | [] => none
  | d :: future =>
      some (reselect { s with document := d, past := s.document :: s.past, future })

/-- What a session is asked. Arguments of edits may be of any type. -/
inductive Command
  | insert (kind : Json)
  | update (id changes : Json)
  | updateSelected (changes : Json)
  | move (index offset : Int)
  | duplicate (index : Int)
  | remove (id : Json)
  | restyle (changes : Json)
  | select (index : Option Int)
  | undo
  | redo

/-- What a session answers. -/
inductive Reply
  | nothing
  | done (changed : Bool)
  | index (position : Option Nat)
  | inserted (id : Option String)
  deriving DecidableEq

/-- What a command gives: a session and an answer or a failure, and what has been drawn and warned
of. -/
structure Outcome where
  session : Session
  reply : Except Failure Reply
  source : IdSource
  warnings : List Warning

/-- An outcome without warnings. -/
def quietly (session : Session) (reply : Reply) (source : IdSource) : Outcome :=
  ⟨session, .ok reply, source, []⟩

/-- An outcome that leaves a session as it is, with a failure. -/
def failing (session : Session) (failure : Failure) (source : IdSource) : Outcome :=
  ⟨session, .error failure, source, []⟩

/-- Add a block of a kind at the end and select it. -/
def insert (settings : Settings) (s : Session) (kind : Json) (source : IdSource) : Outcome :=
  match s.document.insert settings kind source with
  | (.error failure, source) => failing s failure source
  | (.ok d, source) =>
      quietly { s.commit d with selected := some (d.blocks.length - 1) }
        (.inserted (d.blocks.getLast?.map (·.id))) source

/-- Change the attributes of the block with an id; an id of no block is refused with a warning. -/
def update (s : Session) (id changes : Json) (source : IdSource) : Outcome :=
  match s.document.update id changes with
  | .error (.unknownBlock id) =>
      ⟨s, .ok (.done false), source, [.staleUpdate (.unknownBlock id)]⟩
  | .error failure => failing s failure source
  | .ok d => quietly (s.commit d) (.done true) source

/-- Change the attributes of the selected block. -/
def updateSelected (s : Session) (changes : Json) (source : IdSource) : Outcome :=
  match s.selectedBlock? with
  | none => quietly s (.done false) source
  | some block => s.update (.str block.id) changes source

/-- Move the block at an index and select it. -/
def move (s : Session) (index offset : Int) (source : IdSource) : Outcome :=
  match s.document.move index offset with
  | none => quietly s (.index none) source
  | some d =>
      let target := (index + offset).toNat
      quietly { s.commit d with selected := some target } (.index (some target)) source

/-- Copy the block at an index and select the copy; a wrong index is refused with a warning. -/
def duplicate (s : Session) (index : Int) (source : IdSource) : Outcome :=
  match s.document.duplicate index source with
  | (.error failure, source) => ⟨s, .ok (.index none), source, [.staleDuplicate failure]⟩
  | (.ok d, source) =>
      let copy := (index + 1).toNat
      quietly { s.commit d with selected := some copy } (.index (some copy)) source

/-- Remove the block with an id and select nothing. -/
def remove (s : Session) (id : Json) (source : IdSource) : Outcome :=
  match s.document.remove id with
  | none => quietly s (.done false) source
  | some d => quietly { s.commit d with selected := none } (.done true) source

/-- The names that a change of a theme cannot have in a session. -/
def reservedNames : List String := "self" :: Edit.reservedNames

/-- Change the theme. -/
def restyle (s : Session) (changes : Json) (source : IdSource) : Outcome :=
  match (changes.namedValues reservedNames).bind s.document.restyle with
  | .error failure => failing s failure source
  | .ok d => quietly (s.commit d) .nothing source

/-- Take a step in the history, if there is one. -/
def travel (s : Session) (target : Option Session) (source : IdSource) : Outcome :=
  match target with
  | none => quietly s (.done false) source
  | some t => quietly t (.done true) source

/-- Carry out a command. -/
def run (settings : Settings) (s : Session) (command : Command) (source : IdSource) : Outcome :=
  match command with
  | .insert kind => s.insert settings kind source
  | .update id changes => s.update id changes source
  | .updateSelected changes => s.updateSelected changes source
  | .move index offset => s.move index offset source
  | .duplicate index => s.duplicate index source
  | .remove id => s.remove id source
  | .restyle changes => s.restyle changes source
  | .select index => quietly (s.select index) .nothing source
  | .undo => s.travel s.undo? source
  | .redo => s.travel s.redo? source

/-- The answer as JSON. -/
def Reply.toJson : Reply → Json
  | .nothing => .null
  | .done changed => .bool changed
  | .index none => .null
  | .index (some i) => .int i
  | .inserted none => .null
  | .inserted (some id) => .str id

end Session
end MailTemplate
