import MailTemplate.Proofs.Document.Reversal
import MailTemplate.Proofs.Session.Reachable
import MailTemplate.Proofs.Session.Refusals

/-!
# What a command leaves selected

The selection of a session is a bare index. After every edit it is the index of the block that has
been edited.

* `Session.Kept`: the selection is at the same index as before, and at a block with the same id;
* `Session.Followed`: what is selected after each command, and what the command answers;
* `followed_run`: every command of a sound session is followed in this way;
* `selection_follows`: the same of any session, whatever it has been asked before.
-/

namespace MailTemplate
namespace Session

variable {settings : Settings} {s t : Session} {source : IdSource}

/-- The selection stays at its index, and at a block with the same id. -/
structure Kept (s t : Session) : Prop where
  selected_eq : t.selected = s.selected
  id_eq : t.selectedBlock?.map (·.id) = s.selectedBlock?.map (·.id)

theorem Kept.refl (s : Session) : s.Kept s := ⟨rfl, rfl⟩

/-- The id of the selected block depends on the ids of the document alone. -/
theorem map_id_selectedBlock? (s : Session) :
    s.selectedBlock?.map (·.id) = s.selected.bind fun i => s.document.ids[i]? := by
  cases h : s.selected <;> simp [selectedBlock?, Document.ids, h]

theorem Kept.of_ids (hselected : t.selected = s.selected)
    (hids : t.document.ids = s.document.ids) : s.Kept t where
  selected_eq := hselected
  id_eq := by rw [map_id_selectedBlock?, map_id_selectedBlock?, hselected, hids]

/-- The selection after a command, and the answer that goes with it. An insertion selects the new
last block, a move the block that it moves and a duplication the copy right after the block, and a
removal selects nothing; one that fails or is refused keeps the selection. An update and a change of
the theme keep it as well, and an update of the selected block changes no other one. After any other
command, what is selected is there. -/
def Followed (s : Session) (o : Outcome) : Command → Prop
  | .insert kind =>
      (s.Fails (.insert kind) ∧ s.Kept o.session) ∨
      ∃ block, o.reply = .ok (.inserted (some block.id)) ∧
        o.session.document.blocks = s.document.blocks ++ [block] ∧
        o.session.selected = some s.document.blocks.length ∧
        o.session.selectedBlock? = some block
  | .update _ _ => s.Kept o.session
  | .updateSelected _ =>
      s.Kept o.session ∧
        ∀ i, s.selected ≠ some i → o.session.document.blocks[i]? = s.document.blocks[i]?
  | .move index offset =>
      (s.Refuses (.move index offset) ∧ o.reply = .ok (.index none) ∧ s.Kept o.session) ∨
      ∃ (i j : Nat) (block : Block), index = i ∧ index + offset = j ∧
        s.document.blocks[i]? = some block ∧ o.reply = .ok (.index (some j)) ∧
        o.session.selected = some j ∧ o.session.selectedBlock? = some block
  | .duplicate index =>
      (s.Refuses (.duplicate index) ∧ o.reply = .ok (.index none) ∧ s.Kept o.session) ∨
      ∃ (i : Nat) (block copy : Block), index = i ∧ s.document.blocks[i]? = some block ∧
        o.session.document.blocks[i]? = some block ∧ o.reply = .ok (.index (some (i + 1))) ∧
        o.session.selected = some (i + 1) ∧ o.session.selectedBlock? = some copy ∧
        copy.attributes = block.attributes ∧ copy.id ≠ block.id
  | .remove id =>
      (s.Refuses (.remove id) ∧ o.reply = .ok (.done false) ∧ s.Kept o.session) ∨
      (o.reply = .ok (.done true) ∧ o.session.selected = none)
  | .restyle _ => s.Kept o.session
  | _ => ∀ i, o.session.selected = some i → ∃ block, o.session.selectedBlock? = some block

/-! ### Blocks that are added or moved -/

theorem followed_insert (kind : Json) :
    s.Followed (s.insert settings kind source) (.insert kind) := by
  have hverdict : s.Verdict (.insert kind) (s.insert settings kind source) := verdict_insert kind
  unfold insert at hverdict ⊢
  cases hinsert : s.document.insert settings kind source with
  | mk result rest =>
    rw [hinsert] at hverdict
    cases result with
    | error failure => exact .inl ⟨hverdict.fails rfl, .refl s⟩
    | ok d =>
      obtain ⟨k, -, rfl, -⟩ := Document.insert_eq_ok hinsert
      let block : Block := ⟨(source.fresh kind.display s.document.ids).1, .standard settings k⟩
      refine .inr ⟨block, ?_, rfl, ?_, ?_⟩ <;> simp [quietly, selectedBlock?, commit, block]

theorem followed_move (index offset : Int) :
    s.Followed (s.move index offset source) (.move index offset) := by
  unfold move
  cases hmove : s.document.move index offset with
  | none => exact .inl ⟨Document.move_eq_none.mp hmove, rfl, .refl s⟩
  | some d =>
    obtain ⟨-, i, j, hindex, htarget, hi, -, hexchanged⟩ := Document.move_eq_some_iff.mp hmove
    have hblock := List.getElem?_eq_getElem hi
    refine .inr ⟨i, j, _, hindex, htarget, hblock, ?_⟩
    simp only [htarget, Int.toNat_natCast]
    exact ⟨rfl, rfl, hexchanged.right.trans hblock⟩

theorem followed_duplicate (index : Int) :
    s.Followed (s.duplicate index source) (.duplicate index) := by
  have hverdict : s.Verdict (.duplicate index) (s.duplicate index source) :=
    verdict_duplicate index
  unfold duplicate at hverdict ⊢
  cases hduplicate : s.document.duplicate index source with
  | mk result rest =>
    rw [hduplicate] at hverdict
    cases result with
    | error failure => exact .inl ⟨hverdict.refuses rfl rfl, rfl, .refl s⟩
    | ok d =>
      obtain ⟨i, block, hindex, hblock, rfl, -⟩ := Document.duplicate_eq_ok hduplicate
      obtain ⟨rfl, hi⟩ := Document.position?_eq_some.mp hindex
      let copy : Block := { block with id := (source.fresh block.kind.name s.document.ids).1 }
      have hgrown := Document.grownAt_insertIdx (Nat.succ_le_of_lt hi) copy
      have hbefore : (s.document.blocks.insertIdx (i + 1) copy)[i]? = some block := by
        rw [List.getElem?_insertIdx_of_lt (Nat.lt_succ_self i), hblock]
      have hid : copy.id ≠ block.id := by
        intro heq
        have hmem := Document.id_mem_ids hblock
        rw [← heq] at hmem
        exact source.fresh_not_mem block.kind.name s.document.ids hmem
      exact .inr ⟨i, block, copy, rfl, hblock, hbefore, rfl, rfl, hgrown.getElem?, rfl, hid⟩

/-! ### Blocks that stay in their place -/

theorem kept_update (s : Session) (source : IdSource) (id changes : Json) :
    s.Kept (s.update id changes source).session := by
  rw [session_update]
  cases hupdate : s.document.update id changes with
  | error failure => exact .refl s
  | ok d => exact .of_ids rfl (Document.ids_update hupdate)

/-- Ids tell the blocks apart, so an update by the id of the selected block finds that one. -/
theorem Sound.followed_updateSelected (h : s.Sound) (changes : Json) :
    s.Followed (s.updateSelected changes source) (.updateSelected changes) := by
  cases hselected : s.selectedBlock? with
  | none =>
    simp only [updateSelected, hselected]
    exact ⟨.refl s, fun _ _ => rfl⟩
  | some block =>
    simp only [updateSelected, hselected]
    refine ⟨kept_update s source _ changes, fun i hi => ?_⟩
    rw [session_update]
    cases hupdate : s.document.update (.str block.id) changes with
    | error failure => rfl
    | ok d =>
      obtain ⟨_, j, _, _, _, ⟨⟩, hj, -, -, -, rfl⟩ := Document.update_eq_ok hupdate
      obtain ⟨k, hk, hblock⟩ := Option.bind_eq_some_iff.mp hselected
      obtain rfl : k = j := Option.some.inj ((h.document_sound.indexOf?_id hblock).symm.trans hj)
      have hne : k ≠ i := fun heq => hi (heq ▸ hk)
      exact List.getElem?_set_ne hne

theorem followed_remove (id : Json) : s.Followed (s.remove id source) (.remove id) := by
  unfold remove
  cases hremove : s.document.remove id with
  | none => exact .inl ⟨Document.remove_eq_none.mp hremove, rfl, .refl s⟩
  | some d => exact .inr ⟨rfl, rfl⟩

theorem followed_restyle (changes : Json) :
    s.Followed (s.restyle changes source) (.restyle changes) := by
  unfold restyle
  cases hresult : (changes.namedValues reservedNames).bind s.document.restyle with
  | error failure => exact .refl s
  | ok d =>
    obtain ⟨_, -, hd⟩ := bind_eq_ok.mp hresult
    obtain ⟨_, -, rfl⟩ := Document.restyle_eq_ok hd
    exact .of_ids rfl rfl

/-! ### Commands and runs -/

theorem Sound.followed_run (h : s.Sound) (settings : Settings) (source : IdSource)
    (command : Command) : s.Followed (s.run settings command source) command := by
  have hsound : (s.run settings command source).session.Sound := sound_run h command
  cases command with
  | insert kind => exact followed_insert kind
  | update id changes => exact kept_update s source id changes
  | updateSelected changes => exact h.followed_updateSelected changes
  | move index offset => exact followed_move index offset
  | duplicate index => exact followed_duplicate index
  | remove id => exact followed_remove id
  | restyle changes => exact followed_restyle changes
  | _ =>
    intro i hi
    obtain ⟨block, -, hblock⟩ := hsound.selectedBlock?_eq_some hi
    exact ⟨block, hblock⟩

/-- Whatever a session has been asked before, its selection follows the block that is edited. -/
theorem selection_follows {d : Document} (hd : d.Sound) (settings : Settings) (limit : Int)
    (source ids : IdSource) (commands : List Command) (command : Command) :
    let s := (after settings (start d limit) source commands).1
    s.Followed (s.run settings command ids) command :=
  (sound_after (sound_start hd limit) commands).followed_run settings ids command

/-- The first block has been moved back by an undo before it is selected and changed. -/
theorem selection_follows_undone :
    let settings : Settings := ⟨2024, "", "", ""⟩
    let block (id : String) : Block := ⟨id, .standard settings .spacer⟩
    let d : Document := ⟨[block "a", block "b"], .standard⟩
    let commands : List Command := [.move 0 1, .undo, .select (some 0)]
    let s := (after settings (start d 1) ⟨[], 0⟩ commands).1
    let t := (s.run settings (.updateSelected (.obj [("height", .int 8)])) ⟨[], 0⟩).session
    d.Sound ∧ t.selected = some 0 ∧ t.selectedBlock?.map (·.id) = some "a" ∧
      t.document.blocks[0]? = some ⟨"a", ⟨.spacer (.int 8), []⟩⟩ ∧
      t.document.blocks[1]? = some (block "b") := by
  intro settings block d commands s t
  have hd : d.Sound := ⟨by decide, by decide⟩
  have hchanged : t.document.blocks[0]? = some ⟨"a", ⟨.spacer (.int 8), []⟩⟩ := by rfl
  obtain ⟨⟨hkept, hid⟩, hother⟩ := selection_follows hd settings 1 ⟨[], 0⟩ ⟨[], 0⟩ commands
    (.updateSelected (.obj [("height", .int 8)]))
  exact ⟨hd, hkept, hid, hchanged, hother 1 (by decide)⟩

end Session
end MailTemplate
