import MailTemplate.Session

/-!
# What one command of a session does

A command either comes down to an edit of the document, or it selects a block, or it travels in the
history.

* `Command.edit?`, `Command.edited?` and `Command.selection`: the edit that a command comes down to,
  the document that it makes, and the selection afterwards;
* `session_run_edit`, `session_run_undo` and `session_run_redo`: the session after a command;
* `Session.after` and `Session.replies`: the session after a run of commands, and its answers.
-/

namespace MailTemplate

/-- The names reserved in a session are those reserved in an edit and one more. -/
theorem Json.namedValues_cons (name : String) (reserved : List String) (v : Json) :
    v.namedValues (name :: reserved) =
      (v.namedValues [name]).bind fun _ => v.namedValues reserved := by
  cases v with
  | obj values =>
    have hsplit : (values.any fun m => (name :: reserved).contains m.1) =
        ((values.any fun m => [name].contains m.1) ||
          values.any fun m => reserved.contains m.1) := by
      rw [Bool.eq_iff_iff]
      simp only [Bool.or_eq_true, List.any_eq_true, List.contains_cons, List.contains_nil,
        Bool.or_false]
      constructor
      · rintro ⟨m, hm, h | h⟩
        · exact .inl ⟨m, hm, h⟩
        · exact .inr ⟨m, hm, h⟩
      · rintro (⟨m, hm, h⟩ | ⟨m, hm, h⟩)
        · exact ⟨m, hm, .inl h⟩
        · exact ⟨m, hm, .inr h⟩
    simp only [namedValues]
    rw [hsplit]
    cases values.any fun m => [name].contains m.1 <;> rfl
  | _ => rfl

namespace Session

/-! ### Edits -/

namespace Command

/-- The edit that a command comes down to, if it gets that far: an update of the selected block
needs one, and a session reserves a name of its own for a change of the theme. -/
def edit? (selected : Option Block) : Command → Option Edit
  | .insert kind => some (.insert kind)
  | .update id changes => some (.update id changes)
  | .updateSelected changes => selected.map fun block => .update (.str block.id) changes
  | .move index offset => some (.move index offset)
  | .duplicate index => some (.duplicate index)
  | .remove id => some (.remove id)
  | .restyle changes =>
      match changes.namedValues ["self"] with
      | .ok _ => some (.restyle changes)
      | .error _ => none
  | .select _ => none
  | .undo => none
  | .redo => none

/-- The new document that the edit of a command makes of a document, if it makes one. -/
def edited? (settings : Settings) (d : Document) (selected : Option Nat) (source : IdSource)
    (command : Command) : Option Document :=
  match command.edit? (selected.bind fun i => d.blocks[i]?) with
  | none => none
  | some edit =>
      match (edit.apply settings d source).1 with
      | .ok result => result
      | .error _ => none

/-- The selection after a command has made a new document. -/
def selection (selected : Option Nat) (d : Document) : Command → Option Nat
  | .insert _ => some (d.blocks.length - 1)
  | .move index offset => some (index + offset).toNat
  | .duplicate index => some (index + 1).toNat
  | .remove _ => none
  | _ => selected

/-- The commands that neither select a block nor travel in the history. -/
def isEdit : Command → Bool
  | .select _ => false
  | .undo => false
  | .redo => false
  | _ => true

end Command

variable (settings : Settings) (s : Session) (source : IdSource)

/-- The session after an edit: the new document is committed, or nothing has changed. -/
def afterEdit (command : Command) : Session :=
  match command.edited? settings s.document s.selected source with
  | some d => { s.commit d with selected := command.selection s.selected d }
  | none => s

theorem session_update (id changes : Json) :
    (s.update id changes source).session =
      match s.document.update id changes with
      | .ok d => s.commit d
      | .error _ => s := by
  unfold update
  cases s.document.update id changes with
  | ok d => rfl
  | error failure => cases failure <;> rfl

theorem session_run_edit {command : Command} (h : command.isEdit = true) :
    (s.run settings command source).session = s.afterEdit settings source command := by
  cases command with
  | insert kind =>
    simp only [run, insert, afterEdit, Command.edited?, Command.edit?, Edit.apply]
    cases s.document.insert settings kind source with
    | mk result rest => cases result <;> rfl
  | update id changes =>
    rw [run, session_update, afterEdit]
    simp only [Command.edited?, Command.edit?, Edit.apply]
    cases s.document.update id changes <;> rfl
  | updateSelected changes =>
    have hselected : (s.selected.bind fun i => s.document.blocks[i]?) = s.selectedBlock? := rfl
    simp only [run, updateSelected, afterEdit, Command.edited?, Command.edit?, hselected]
    cases s.selectedBlock? with
    | none => rfl
    | some block =>
      simp only [Option.map_some, Edit.apply]
      rw [session_update]
      cases s.document.update (.str block.id) changes <;> rfl
  | move index offset =>
    simp only [run, move, afterEdit, Command.edited?, Command.edit?, Edit.apply]
    cases s.document.move index offset <;> rfl
  | duplicate index =>
    simp only [run, duplicate, afterEdit, Command.edited?, Command.edit?, Edit.apply]
    cases s.document.duplicate index source with
    | mk result rest => cases result <;> rfl
  | remove id =>
    simp only [run, remove, afterEdit, Command.edited?, Command.edit?, Edit.apply]
    cases s.document.remove id <;> rfl
  | restyle changes =>
    simp only [run, restyle, afterEdit, Command.edited?, Command.edit?, Edit.apply, reservedNames]
    -- the name reserved by the session comes first, those reserved by the edit after it
    rw [Json.namedValues_cons]
    cases changes.namedValues ["self"] with
    | error failure => rfl
    | ok free =>
      simp only [Except.bind]
      cases changes.namedValues Edit.reservedNames with
      | error failure => rfl
      | ok values =>
        simp only
        cases s.document.restyle values <;> rfl
  | select index => contradiction
  | undo => contradiction
  | redo => contradiction

/-! ### Travels -/

theorem run_undo_nil (h : s.past = []) :
    s.run settings .undo source = quietly s (.done false) source := by
  simp only [run, travel, undo?, h]

theorem run_undo_cons {d : Document} {past : List Document} (h : s.past = d :: past) :
    s.run settings .undo source =
      quietly (reselect { s with document := d, past, future := s.document :: s.future })
        (.done true) source := by
  simp only [run, travel, undo?, h]

theorem run_redo_nil (h : s.future = []) :
    s.run settings .redo source = quietly s (.done false) source := by
  simp only [run, travel, redo?, h]

theorem run_redo_cons {d : Document} {future : List Document} (h : s.future = d :: future) :
    s.run settings .redo source =
      quietly (reselect { s with document := d, past := s.document :: s.past, future })
        (.done true) source := by
  simp only [run, travel, redo?, h]

/-! ### Runs -/

/-- The session and the source of ids after a run of commands. -/
def after (s : Session) (source : IdSource) : List Command → Session × IdSource
  | [] => (s, source)
  | command :: commands =>
      let outcome := s.run settings command source
      after outcome.session outcome.source commands

/-- The answers of a session in a run of commands. -/
def replies (s : Session) (source : IdSource) : List Command → List (Except Failure Reply)
  | [] => []
  | command :: commands =>
      let outcome := s.run settings command source
      outcome.reply :: replies outcome.session outcome.source commands

theorem replies_cons (command : Command) (commands : List Command) :
    replies settings s source (command :: commands) =
      (s.run settings command source).reply ::
        replies settings (s.run settings command source).session
          (s.run settings command source).source commands := rfl

end Session
end MailTemplate
