import MailTemplate.Proofs.Document.Refusals
import MailTemplate.Proofs.Session.Step

/-!
# Commands that change nothing

A command that fails or is refused leaves a session as it is, and only ids may have been drawn.

* `Session.Fails` and `Session.Refuses`: the commands that fail, and those that are refused;
* `Verdict` and `run_verdict`: one of the two, or neither, and what it means for the session;
* `refused_atomic`: single commands and runs of them.
-/

namespace MailTemplate
namespace Session

/-! ### What a session does not carry out -/

/-- The commands that fail: an unknown kind, attributes or a theme that are not valid, arguments of
a wrong type. -/
def Fails (s : Session) : Command → Prop
  | .insert kind => ∀ k : Kind, kind ≠ .str k.name
  | .update id changes => s.document.Rejects id changes
  | .updateSelected changes =>
      ∃ block, s.selectedBlock? = some block ∧ s.document.Rejects (.str block.id) changes
  | .restyle changes =>
      ∀ members theme, changes = .obj members →
        (∀ name ∈ reservedNames, name ∉ Json.Object.names members) →
        s.document.theme.revise members ≠ .ok theme
  | _ => False

/-- The commands that are refused: an id or a position that is not there, a move that leads nowhere,
no selection, and a history that ends here. -/
def Refuses (s : Session) : Command → Prop
  | .update id _ => s.document.Lacks id
  | .updateSelected _ => s.selectedBlock? = none
  | .move index offset =>
      offset = 0 ∨ ¬ s.document.Covers index ∨ ¬ s.document.Covers (index + offset)
  | .duplicate index => ¬ s.document.Covers index
  | .remove id => s.document.Lacks id
  | .undo => s.past = []
  | .redo => s.future = []
  | _ => False

/-- Whether an answer says that nothing has been done. -/
def Reply.isRefusal : Reply → Bool
  | .done false => true
  | .index none => true
  | _ => false

/-- Whether a command has failed or has been refused. -/
def isDeclined : Except Failure Reply → Bool
  | .error _ => true
  | .ok reply => reply.isRefusal

/-- What has become of a command: it has failed or has been refused, and the session is as before,
or it has been carried out. -/
inductive Verdict (s : Session) (command : Command) (o : Outcome) : Prop
  | failed (hfails : s.Fails command) (hrefuses : ¬ s.Refuses command) (failure : Failure)
      (hreply : o.reply = .error failure) (hsession : o.session = s)
  | refused (hfails : ¬ s.Fails command) (hrefuses : s.Refuses command) (reply : Reply)
      (hreply : o.reply = .ok reply) (hrefusal : reply.isRefusal = true) (hsession : o.session = s)
  | done (hfails : ¬ s.Fails command) (hrefuses : ¬ s.Refuses command) (reply : Reply)
      (hreply : o.reply = .ok reply) (hrefusal : reply.isRefusal = false)

variable {settings : Settings} {s : Session} {source : IdSource}

theorem Verdict.fails {command : Command} {o : Outcome} (h : s.Verdict command o)
    {failure : Failure} (hfailure : o.reply = .error failure) : s.Fails command := by
  cases h with
  | failed hfails => exact hfails
  | refused _ _ reply hreply | done _ _ reply hreply =>
    rw [hreply] at hfailure
    contradiction

theorem Verdict.refuses {command : Command} {o : Outcome} (h : s.Verdict command o)
    {reply : Reply} (hreply : o.reply = .ok reply) (hrefusal : reply.isRefusal = true) :
    s.Refuses command := by
  cases h with
  | failed _ _ failure hfailure =>
    rw [hfailure] at hreply
    contradiction
  | refused _ hrefuses => exact hrefuses
  | done _ _ other hother hdone =>
    obtain rfl := Except.ok.inj (hother.symm.trans hreply)
    rw [hrefusal] at hdone
    contradiction

/-! ### One command -/

theorem verdict_insert (kind : Json) :
    s.Verdict (.insert kind) (s.insert settings kind source) := by
  unfold insert
  cases hinsert : s.document.insert settings kind source with
  | mk result rest =>
    cases result with
    | ok d =>
      obtain ⟨k, hk, -⟩ := Document.insert_eq_ok hinsert
      exact .done (fun h => h k (Kind.resolve_eq_ok.mp hk)) not_false _ rfl rfl
    | error failure =>
      refine .failed (fun k hkind => ?_) not_false failure rfl rfl
      have hdone := congrArg Prod.fst (Document.insert_of_kind settings s.document source k)
      rw [← hkind, hinsert] at hdone
      contradiction

theorem verdict_update (s : Session) (source : IdSource) (id changes : Json) :
    s.Verdict (.update id changes) (s.update id changes source) := by
  unfold update
  by_cases hlacks : s.document.Lacks id
  · have hnone : ¬ s.document.Rejects id changes := by
      rintro ⟨name, block, rfl, hget, -⟩
      have hmem := List.mem_of_find?_eq_some hget
      have hid : block.id = name := by simpa using List.find?_some hget
      exact hlacks name (List.mem_map.mpr ⟨block, hmem, hid⟩) rfl
    rw [Document.update_of_lacks hlacks]
    exact .refused hnone hlacks _ rfl rfl rfl
  · rcases Document.update_of_not_lacks hlacks changes with
      ⟨hrejects, failure, hfailure, hother⟩ | ⟨hrejects, d, hd⟩
    · -- the failure is not that of an unknown id, so it is not caught
      rw [hfailure]
      cases failure with
      | unknownBlock v => exact absurd rfl (hother v)
      | _ => exact .failed hrejects hlacks _ rfl rfl
    · rw [hd]
      exact .done hrejects hlacks _ rfl rfl

/-- The selected block is one of the document, so an update of it finds a block. -/
theorem not_lacks_selected {block : Block} (h : s.selectedBlock? = some block) :
    ¬ s.document.Lacks (.str block.id) := by
  obtain ⟨i, -, hi⟩ := Option.bind_eq_some_iff.mp h
  intro hlacks
  exact hlacks block.id (Document.id_mem_ids hi) rfl

theorem verdict_updateSelected (changes : Json) :
    s.Verdict (.updateSelected changes) (s.updateSelected changes source) := by
  unfold updateSelected
  cases hblock : s.selectedBlock? with
  | none =>
    refine .refused ?_ hblock _ rfl rfl rfl
    rintro ⟨block, hsome, -⟩
    rw [hblock] at hsome
    contradiction
  | some block =>
    have hrefuses : ¬ s.Refuses (.updateSelected changes) := by simp [Refuses, hblock]
    have hfails : s.Fails (.updateSelected changes) ↔
        s.Fails (.update (.str block.id) changes) := by simp [Fails, hblock]
    cases verdict_update s source (.str block.id) changes with
    | failed h _ failure hreply hsession =>
      exact .failed (hfails.mpr h) hrefuses failure hreply hsession
    | refused _ h => exact absurd h (not_lacks_selected hblock)
    | done h _ reply hreply hrefusal =>
      exact .done (fun hs => h (hfails.mp hs)) hrefuses reply hreply hrefusal

theorem verdict_move (index offset : Int) :
    s.Verdict (.move index offset) (s.move index offset source) := by
  unfold move
  cases hmove : s.document.move index offset with
  | none => exact .refused not_false (Document.move_eq_none.mp hmove) _ rfl rfl rfl
  | some d =>
    refine .done not_false (fun h => ?_) _ rfl rfl
    rw [Document.move_eq_none.mpr h] at hmove
    contradiction

theorem verdict_duplicate (index : Int) :
    s.Verdict (.duplicate index) (s.duplicate index source) := by
  unfold duplicate
  cases hduplicate : s.document.duplicate index source with
  | mk result rest =>
    cases result with
    | ok d =>
      obtain ⟨i, block, hi, -⟩ := Document.duplicate_eq_ok hduplicate
      exact .done not_false (fun h => h (Document.covers_iff.mpr ⟨i, hi⟩)) _ rfl rfl
    | error failure =>
      refine .refused not_false (fun hcovers => ?_) _ rfl rfl rfl
      obtain ⟨d, hd⟩ := Document.duplicate_of_covers hcovers source
      rw [hduplicate] at hd
      contradiction

theorem verdict_remove (id : Json) : s.Verdict (.remove id) (s.remove id source) := by
  unfold remove
  cases hremove : s.document.remove id with
  | none => exact .refused not_false (Document.remove_eq_none.mp hremove) _ rfl rfl rfl
  | some d =>
    refine .done not_false (fun h => ?_) _ rfl rfl
    rw [Document.remove_eq_none.mpr h] at hremove
    contradiction

theorem verdict_restyle (changes : Json) :
    s.Verdict (.restyle changes) (s.restyle changes source) := by
  unfold restyle
  cases hresult : (changes.namedValues reservedNames).bind s.document.restyle with
  | error failure =>
    refine .failed (fun members theme hchanges hfree htheme => ?_) not_false failure rfl rfl
    rw [Json.namedValues_eq_ok.mpr ⟨hchanges, hfree⟩] at hresult
    simp [Except.bind, Document.restyle, htheme, Checked.orInvalid, Except.map] at hresult
  | ok d =>
    obtain ⟨members, hmembers, hd⟩ := bind_eq_ok.mp hresult
    obtain ⟨hchanges, hfree⟩ := Json.namedValues_eq_ok.mp hmembers
    obtain ⟨theme, htheme, -⟩ := Document.restyle_eq_ok hd
    exact .done (fun h => h members theme hchanges hfree htheme) not_false _ rfl rfl

/-- Every command fails, is refused or is carried out, as its arguments and the session say. -/
theorem run_verdict (settings : Settings) (s : Session) (source : IdSource) (command : Command) :
    s.Verdict command (s.run settings command source) := by
  cases command with
  | insert kind => exact verdict_insert kind
  | update id changes => exact verdict_update s source id changes
  | updateSelected changes => exact verdict_updateSelected changes
  | move index offset => exact verdict_move index offset
  | duplicate index => exact verdict_duplicate index
  | remove id => exact verdict_remove id
  | restyle changes => exact verdict_restyle changes
  | select index => exact .done not_false not_false _ rfl rfl
  | undo =>
    cases hpast : s.past with
    | nil =>
      rw [run_undo_nil settings s source hpast]
      exact .refused not_false hpast _ rfl rfl rfl
    | cons d past =>
      rw [run_undo_cons settings s source hpast]
      exact .done not_false (by simp [Refuses, hpast]) _ rfl rfl
  | redo =>
    cases hfuture : s.future with
    | nil =>
      rw [run_redo_nil settings s source hfuture]
      exact .refused not_false hfuture _ rfl rfl rfl
    | cons d future =>
      rw [run_redo_cons settings s source hfuture]
      exact .done not_false (by simp [Refuses, hfuture]) _ rfl rfl

theorem session_of_declined {command : Command}
    (h : isDeclined (s.run settings command source).reply = true) :
    (s.run settings command source).session = s := by
  cases run_verdict settings s source command with
  | failed _ _ _ _ hsession => exact hsession
  | refused _ _ _ _ _ hsession => exact hsession
  | done _ _ reply hreply hrefusal =>
    rw [hreply, isDeclined, hrefusal] at h
    contradiction

/-- Nothing but ids is ever taken from a source. -/
theorem source_run (settings : Settings) (s : Session) (source : IdSource) (command : Command) :
    ∃ k, (s.run settings command source).source = source.skip k := by
  have hfresh (kind : String) : ∃ k, (source.fresh kind s.document.ids).2 = source.skip k := by
    obtain ⟨k, -, -, -, heq⟩ := source.fresh_spec kind s.document.ids
    exact ⟨k + 1, by rw [heq]⟩
  have hsame : ∃ k, source = source.skip k := ⟨0, rfl⟩
  cases command with
  | insert kind =>
    simp only [run, insert, Document.insert]
    cases Kind.resolve kind <;> exact hfresh kind.display
  | duplicate index =>
    have hsource : (s.run settings (.duplicate index) source).source =
        (s.document.duplicate index source).2 := by
      simp only [run, duplicate]
      cases s.document.duplicate index source with
      | mk result rest => cases result <;> rfl
    rw [hsource, Document.duplicate]
    split
    · exact hsame
    · split
      · exact hsame
      · exact hfresh _
  | update id changes =>
    simp only [run, update]
    split <;> exact hsame
  | updateSelected changes =>
    simp only [run, updateSelected, update]
    split
    · exact hsame
    · split <;> exact hsame
  | move index offset =>
    simp only [run, move]
    split <;> exact hsame
  | remove id =>
    simp only [run, remove]
    split <;> exact hsame
  | restyle changes =>
    simp only [run, restyle]
    split <;> exact hsame
  | select index => exact hsame
  | undo =>
    simp only [run, travel]
    split <;> exact hsame
  | redo =>
    simp only [run, travel]
    split <;> exact hsame

/-! ### Runs -/

/-- A run of commands of which none is carried out leaves a session as it is. -/
theorem session_after_of_declined {commands : List Command}
    (h : ∀ reply ∈ replies settings s source commands, isDeclined reply = true) :
    (after settings s source commands).1 = s := by
  induction commands generalizing source with
  | nil => rfl
  | cons command commands ih =>
    rw [replies_cons, List.forall_mem_cons] at h
    have hsession := session_of_declined h.1
    rw [hsession] at h
    rw [after]
    simp only [hsession]
    exact ih h.2

/-- A command fails or is refused exactly for the reasons of `Fails` and `Refuses`, and then
document, selection and both stacks are as before, so that what could be redone still can; only ids
may have been drawn. The same holds of any run of such commands. -/
theorem refused_atomic (settings : Settings) (s : Session) (source : IdSource) :
    (∀ command,
      ((∃ failure, (s.run settings command source).reply = .error failure) ↔ s.Fails command) ∧
      ((∃ reply, (s.run settings command source).reply = .ok reply ∧ reply.isRefusal = true) ↔
        s.Refuses command)) ∧
    (∀ command, s.Fails command ∨ s.Refuses command →
      (s.run settings command source).session = s ∧
      ∃ k, (s.run settings command source).source = source.skip k) ∧
    ∀ commands, (∀ reply ∈ replies settings s source commands, isDeclined reply = true) →
      (after settings s source commands).1 = s := by
  refine ⟨fun command => ?_, fun command h => ?_, fun commands => session_after_of_declined⟩
  · cases run_verdict settings s source command with
    | failed hfails hrefuses failure hreply hsession =>
      simp [hreply, hfails, hrefuses]
    | refused hfails hrefuses reply hreply hrefusal hsession =>
      simp [hreply, hfails, hrefuses, hrefusal]
    | done hfails hrefuses reply hreply hrefusal =>
      simp [hreply, hfails, hrefuses, hrefusal]
  · refine ⟨?_, source_run settings s source command⟩
    cases run_verdict settings s source command with
    | failed _ _ _ _ hsession => exact hsession
    | refused _ _ _ _ _ hsession => exact hsession
    | done hfails hrefuses =>
      rcases h with h | h
      · exact absurd h hfails
      · exact absurd h hrefuses

/-- An unknown kind, a stale id, a move out of the document, changes that are no object and an undo
without a past do not touch what can be redone, though an id is drawn. -/
theorem refused_keeps_future :
    let settings : Settings := ⟨2024, "", "", ""⟩
    let block : Block := ⟨"a", .standard settings .spacer⟩
    let d : Document := ⟨[block], .standard⟩
    let s : Session := ⟨d, some 0, 3, [], [.empty]⟩
    let commands : List Command :=
      [.insert (.str "columns"), .update (.str "b") .null, .move 0 1, .updateSelected .null, .undo]
    (∀ reply ∈ replies settings s ⟨[], 0⟩ commands, isDeclined reply = true) ∧
      after settings s ⟨[], 0⟩ commands = (s, ⟨[], 1⟩) := by
  intro settings block d s commands
  have hdeclined : ∀ reply ∈ replies settings s ⟨[], 0⟩ commands, isDeclined reply = true := by
    decide
  refine ⟨hdeclined, Prod.ext ((refused_atomic settings s ⟨[], 0⟩).2.2 commands hdeclined) ?_⟩
  rfl

end Session
end MailTemplate
