import MailTemplate.Proofs.Session.Refusals
import MailTemplate.Service

/-!
# The editing service and the edits of documents

The service carries out an operation in a session of its own. What it answers can be said without
that session.

* `Operation.toEdit` and `Operation.selection?`: the edit that an operation stands for, and the
  index that it selects;
* `Service.Answers` and `edit_answered`: a block that is not there, changes that it does not take,
  or the document that the edit makes;
* `edit_agrees`: when each of the three is the case.
-/

namespace MailTemplate
namespace Operation

/-- The edit of a document that an operation stands for. -/
def toEdit : Operation → Edit
  | insert kind => .insert (.str kind.name)
  | update id changes => .update (.str id) (.obj changes)
  | move index offset => .move index offset
  | duplicate index => .duplicate index
  | remove id => .remove (.str id)

/-- The index that an operation selects in a document: the new last one, that of the updated block,
the target of a move that is made, and that of the copy. -/
def selection? (d : Document) : Operation → Option Int
  | insert _ => some d.blocks.length
  | update id _ => (d.indexOf? id).map Int.ofNat
  | move index offset => (d.move index offset).map fun _ => index + offset
  | duplicate index => some (index + 1)
  | remove _ => none

/-- A message for an operation that refers to a block that the document does not have. -/
def Misses (d : Document) : Operation → String → Prop
  | update id _, message => id ∉ d.ids ∧ message = "Bloc introuvable : " ++ id
  | duplicate index, message =>
      ¬ d.Covers index ∧ message = "Index hors document : " ++ toString index
  | _, _ => False

/-- The failure of an update of a block that is there. -/
def FailsWith (d : Document) : Operation → Failure → Prop
  | update id changes, failure => id ∈ d.ids ∧ d.update (.str id) (.obj changes) = .error failure
  | _, _ => False

variable {d : Document} {operation : Operation} {message message' : String}
  {failure failure' : Failure}

theorem misses_iff : operation.Misses d message ↔
    (∃ id changes, operation = .update id changes ∧ id ∉ d.ids ∧
      message = "Bloc introuvable : " ++ id) ∨
    ∃ index, operation = .duplicate index ∧ ¬ d.Covers index ∧
      message = "Index hors document : " ++ toString index := by
  cases operation <;> simp [Misses]

theorem failsWith_iff : operation.FailsWith d failure ↔
    ∃ id changes, operation = .update id changes ∧ id ∈ d.ids ∧
      d.update (.str id) (.obj changes) = .error failure := by
  cases operation with
  | update id changes =>
    constructor
    · exact fun h => ⟨id, changes, rfl, h⟩
    · rintro ⟨_, _, ⟨⟩, h⟩
      exact h
  | _ => simp [FailsWith]

theorem Misses.unique (h : operation.Misses d message) (h' : operation.Misses d message') :
    message = message' := by
  cases operation with
  | update id changes => exact h.2.trans h'.2.symm
  | duplicate index => exact h.2.trans h'.2.symm
  | _ => exact h.elim

theorem FailsWith.unique (h : operation.FailsWith d failure) (h' : operation.FailsWith d failure') :
    failure = failure' := by
  cases operation with
  | update id changes => exact Except.error.inj (h.2.symm.trans h'.2)
  | _ => exact h.elim

/-- A block that is not there is not the block that does not take the changes. -/
theorem Misses.not_failsWith (h : operation.Misses d message) :
    ¬ operation.FailsWith d failure := by
  cases operation with
  | update id changes => exact fun h' => h.1 h'.1
  | _ => exact id

end Operation

namespace Service

variable {settings : Settings} {d : Document} {source : IdSource}

/-- What a request is answered, with the ids that are left. -/
inductive Answers (settings : Settings) (d : Document) (source : IdSource) (operation : Operation) :
    Except Refusal Edited → IdSource → Prop
  | missing {message : String} {rest : IdSource} (h : operation.Misses d message) :
      Answers settings d source operation (.error (.notFound message)) rest
  | invalid {failure : Failure} {rest : IdSource} (h : operation.FailsWith d failure) :
      Answers settings d source operation (.error (.unprocessable failure)) rest
  | edited (result : Option Document) {selected : Option Nat} {rest : IdSource}
      (hmissing : ∀ message, ¬ operation.Misses d message)
      (hinvalid : ∀ failure, ¬ operation.FailsWith d failure)
      (h : operation.toEdit.apply settings d source = (.ok result, rest))
      (hselected : selected.map Int.ofNat = operation.selection? d) :
      Answers settings d source operation (.ok ⟨result.getD d, selected⟩) rest

/-- A request is answered. -/
def Answered (settings : Settings) (d : Document) (source : IdSource) (operation : Operation) :
    Prop :=
  let (result, outcome) := edit settings ⟨d, operation⟩ source
  Answers settings d source operation result outcome.source

/-- A kind is never unknown here, so that a block is always added. -/
theorem answers_insert (kind : Kind) : Answered settings d source (.insert kind) := by
  cases hinsert : d.insert settings (.str kind.name) source with
  | mk result rest =>
    have hdone := hinsert.symm.trans (Document.insert_of_kind settings d source kind)
    obtain ⟨e, rfl⟩ : ∃ e, result = .ok e := ⟨_, congrArg Prod.fst hdone⟩
    obtain ⟨k, -, hblocks, -⟩ := Document.insert_eq_ok hinsert
    have hlast : e.blocks.length - 1 = d.blocks.length := by simp [hblocks]
    simp only [Answered, edit, Operation.command, Session.run, Session.insert, Session.start,
      hinsert, hlast]
    refine .edited (some e) (fun _ => id) (fun _ => id) ?_ rfl
    simp only [Operation.toEdit, Edit.apply, hinsert]
    rfl

/-- An update that is made makes a document even if nothing changes, so that only an id of no block
is refused. -/
theorem answers_update (id : String) (changes : Json.Object) :
    Answered settings d source (.update id changes) := by
  by_cases hlacks : d.Lacks (.str id)
  · have hmem : id ∉ d.ids := fun hmem => hlacks id hmem rfl
    simp only [Answered, edit, Operation.command, Session.run, Session.update, Session.start,
      Document.update_of_lacks hlacks]
    exact .missing ⟨hmem, rfl⟩
  · have hmem : id ∈ d.ids := by simpa [Document.Lacks] using hlacks
    rcases Document.update_of_not_lacks hlacks (.obj changes) with
      ⟨-, failure, hfailure, hother⟩ | ⟨-, e, he⟩
    · simp only [Answered, edit, Operation.command, Session.run, Session.update, Session.start,
        hfailure]
      cases failure with
      | unknownBlock v => exact absurd rfl (hother v)
      | _ => exact .invalid ⟨hmem, hfailure⟩
    · have hindex : e.indexOf? id = d.indexOf? id := by
        rw [Document.indexOf?_eq_findIdx?, Document.indexOf?_eq_findIdx?, Document.ids_update he]
      simp only [Answered, edit, Operation.command, Session.run, Session.update, Session.start, he]
      refine .edited (some e) (fun _ h => h.1 hmem) (fun failure h => ?_) ?_ ?_
      · rw [Operation.FailsWith, he] at h
        exact absurd h.2 (by simp)
      · rw [Operation.toEdit, Edit.apply, he]
        rfl
      · exact congrArg (Option.map Int.ofNat) hindex

theorem answers_move (index offset : Int) : Answered settings d source (.move index offset) := by
  simp only [Answered, edit, Operation.command, Session.run, Session.move, Session.start]
  cases hmove : d.move index offset with
  | none =>
    refine .edited none (fun _ => id) (fun _ => id) ?_ ?_
    · rw [Operation.toEdit, Edit.apply, hmove]
      rfl
    · rw [Operation.selection?, hmove]
      rfl
  | some e =>
    obtain ⟨-, i, j, -, hj, -⟩ := Document.move_eq_some.mp hmove
    obtain ⟨hj, -⟩ := Document.position?_eq_some.mp hj
    refine .edited (some e) (fun _ => id) (fun _ => id) ?_ ?_
    · rw [Operation.toEdit, Edit.apply, hmove]
      rfl
    · rw [Operation.selection?, hmove, hj]
      rfl

theorem answers_duplicate (index : Int) : Answered settings d source (.duplicate index) := by
  simp only [Answered, edit, Operation.command, Session.run, Session.duplicate, Session.start]
  cases hduplicate : d.duplicate index source with
  | mk result rest =>
    cases result with
    | error failure =>
      refine .missing ⟨fun hcovers => ?_, rfl⟩
      obtain ⟨e, he⟩ := Document.duplicate_of_covers hcovers source
      rw [hduplicate] at he
      contradiction
    | ok e =>
      obtain ⟨i, block, hi, -⟩ := Document.duplicate_eq_ok hduplicate
      have hcovers : d.Covers index := Document.covers_iff.mpr ⟨i, hi⟩
      obtain ⟨rfl, -⟩ := Document.position?_eq_some.mp hi
      refine .edited (some e) (fun _ h => h.1 hcovers) (fun _ => id) ?_ rfl
      rw [Operation.toEdit, Edit.apply, hduplicate]
      rfl

theorem answers_remove (id : String) : Answered settings d source (.remove id) := by
  simp only [Answered, edit, Operation.command, Session.run, Session.remove, Session.start]
  cases hremove : d.remove (.str id) with
  | none =>
    refine .edited none (fun _ h => h) (fun _ h => h) ?_ rfl
    rw [Operation.toEdit, Edit.apply, hremove]
    rfl
  | some e =>
    refine .edited (some e) (fun _ h => h) (fun _ h => h) ?_ rfl
    rw [Operation.toEdit, Edit.apply, hremove]
    rfl

theorem edit_answered (settings : Settings) (d : Document) (source : IdSource)
    (operation : Operation) : Answered settings d source operation := by
  cases operation with
  | insert kind => exact answers_insert kind
  | update id changes => exact answers_update id changes
  | move index offset => exact answers_move index offset
  | duplicate index => exact answers_duplicate index
  | remove id => exact answers_remove id

section Answers

variable {operation : Operation} {result : Except Refusal Edited} {rest : IdSource}
  (h : Answers settings d source operation result rest)
include h

theorem Answers.notFound_iff {message : String} :
    result = .error (.notFound message) ↔ operation.Misses d message := by
  cases h with
  | missing h =>
    constructor
    · rintro ⟨⟩
      exact h
    · intro h'
      rw [h.unique h']
  | invalid h => exact iff_of_false (by simp) fun hmissing => hmissing.not_failsWith h
  | edited _ hmissing => exact iff_of_false (by simp) (hmissing message)

theorem Answers.unprocessable_iff {failure : Failure} :
    result = .error (.unprocessable failure) ↔ operation.FailsWith d failure := by
  cases h with
  | missing h => exact iff_of_false (by simp) h.not_failsWith
  | invalid h =>
    constructor
    · rintro ⟨⟩
      exact h
    · intro h'
      rw [h.unique h']
  | edited _ _ hinvalid => exact iff_of_false (by simp) (hinvalid failure)

theorem Answers.eq_or_eq_or_eq :
    (∃ message, result = .error (.notFound message)) ∨
      (∃ failure, result = .error (.unprocessable failure)) ∨
      ∃ edited answer, operation.toEdit.apply settings d source = (.ok edited, rest) ∧
        result = .ok answer ∧ answer.document = edited.getD d ∧
        answer.selected.map Int.ofNat = operation.selection? d := by
  cases h with
  | missing h => exact .inl ⟨_, rfl⟩
  | invalid h => exact .inr (.inl ⟨_, rfl⟩)
  | edited _ _ _ h hselected => exact .inr (.inr ⟨_, _, h, rfl, rfl, hselected⟩)

end Answers

/-- The service refuses a request exactly if the operation refers to a block that is not there, or
updates one that does not take the changes, with the failure that the update has. In all other cases
it answers with the document that the edit makes of the same ids, or with the one that was given
where nothing is to be changed, and with the index that the operation selects. -/
theorem edit_agrees (settings : Settings) (request : EditRequest) (source : IdSource) :
    let d := request.document
    let operation := request.operation
    let result := (edit settings request source).1
    let rest := (edit settings request source).2.source
    (∀ message, result = .error (.notFound message) ↔
      (∃ id changes, operation = .update id changes ∧ id ∉ d.ids ∧
        message = "Bloc introuvable : " ++ id) ∨
      ∃ index, operation = .duplicate index ∧ ¬ (0 ≤ index ∧ index < d.blocks.length) ∧
        message = "Index hors document : " ++ toString index) ∧
    (∀ failure, result = .error (.unprocessable failure) ↔
      ∃ id changes, operation = .update id changes ∧ id ∈ d.ids ∧
        d.update (.str id) (.obj changes) = .error failure) ∧
    ((∃ message, result = .error (.notFound message)) ∨
      (∃ failure, result = .error (.unprocessable failure)) ∨
      ∃ edited answer, operation.toEdit.apply settings d source = (.ok edited, rest) ∧
        result = .ok answer ∧ answer.document = edited.getD d ∧
        answer.selected.map Int.ofNat = operation.selection? d) := by
  intro d operation result rest
  have h : Answers settings d source operation result rest := edit_answered settings d source _
  exact ⟨fun message => h.notFound_iff.trans Operation.misses_iff,
    fun failure => h.unprocessable_iff.trans Operation.failsWith_iff, h.eq_or_eq_or_eq⟩

/-- An update that changes nothing finds its block. -/
example (settings : Settings) (source : IdSource) :
    (edit settings ⟨⟨[⟨"a", .standard settings .spacer⟩], .standard⟩, .update "a" []⟩ source).1 =
      .ok ⟨⟨[⟨"a", .standard settings .spacer⟩], .standard⟩, some 0⟩ := by
  rfl

end Service
end MailTemplate
