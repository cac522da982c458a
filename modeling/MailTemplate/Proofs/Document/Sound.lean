import MailTemplate.Document.Starter
import MailTemplate.Document.Stored
import MailTemplate.Proofs.Document.Edits
import MailTemplate.Proofs.Document.Reading

/-!
# Sound documents

The ids of a document differ from each other and are not empty. Every reader makes such documents,
and every edit keeps them so.

* `Document.Sound`, `Sound.indexOf?_ids` and `indexOf?_id`: an id leads back to its own position;
* `exists_repair_of_load`, `drawBlocks_of_starter` and `exists_draw_of_mem_drawBlocks`: where loaded
  documents and starters come from;
* `sound_read`, `sound_load`, `sound_starter`: documents that are read or made anew;
* `Edit.sound_apply`: edited documents.
-/

namespace MailTemplate

variable {settings : Settings} {source rest : IdSource}

/-- Ids tell the blocks of a document apart: none stands twice, and none is empty. -/
structure Document.Sound (d : Document) : Prop where
  nodup : d.ids.Nodup
  ne_empty : "" ∉ d.ids

namespace Document

variable {d e : Document}

theorem Sound.indexOf?_ids (h : d.Sound) {i : Nat} {id : String} (hid : d.ids[i]? = some id) :
    d.indexOf? id = some i := by
  have hnodup := h.nodup
  unfold ids at hid hnodup
  rw [List.getElem?_map, Option.map_eq_some_iff] at hid
  obtain ⟨block, hblock, rfl⟩ := hid
  obtain ⟨hi, rfl⟩ := List.getElem?_eq_some_iff.mp hblock
  refine List.findIdx?_eq_some_iff_getElem.mpr ⟨hi, by simp, fun j hj => ?_⟩
  -- An earlier block with the same id would be a repetition.
  have hne := List.pairwise_iff_getElem.mp hnodup j i
    (by rw [List.length_map]; omega) (by rw [List.length_map]; exact hi) hj
  simpa using hne

/-- The block at a position is found under its id. -/
theorem Sound.indexOf?_id (h : d.Sound) {i : Nat} {block : Block}
    (hblock : d.blocks[i]? = some block) : d.indexOf? block.id = some i :=
  h.indexOf?_ids (getElem?_ids hblock)

/-- Neither the order of the blocks nor their attributes matter. -/
theorem Sound.of_perm (h : d.Sound) (hperm : e.ids.Perm d.ids) : e.Sound where
  nodup := hperm.nodup_iff.mpr h.nodup
  ne_empty := fun hmem => h.ne_empty (hperm.mem_iff.mp hmem)

/-- A block is added under an id that is new and not empty. -/
theorem Sound.of_perm_cons (h : d.Sound) {id : String} (hperm : e.ids.Perm (id :: d.ids))
    (hnew : id ∉ d.ids) (hid : id ≠ "") : e.Sound where
  nodup := hperm.nodup_iff.mpr (List.nodup_cons.mpr ⟨hnew, h.nodup⟩)
  ne_empty := by
    intro hmem
    rcases List.mem_cons.mp (hperm.mem_iff.mp hmem) with heq | hold
    · exact hid heq.symm
    · exact h.ne_empty hold

theorem Sound.of_sublist (h : d.Sound) (hsub : e.ids.Sublist d.ids) : e.Sound where
  nodup := h.nodup.sublist hsub
  ne_empty := fun hmem => h.ne_empty (hsub.subset hmem)

theorem Sound.id_ne_empty (h : d.Sound) {block : Block} (hblock : block ∈ d.blocks) :
    block.id ≠ "" :=
  fun hid => h.ne_empty (List.mem_map.mpr ⟨block, hblock, hid⟩)

theorem Sound.of_forall (hnodup : d.ids.Nodup) (hid : ∀ block ∈ d.blocks, block.id ≠ "") :
    d.Sound := by
  refine ⟨hnodup, fun hmem => ?_⟩
  obtain ⟨block, hmem, hempty⟩ := List.mem_map.mp hmem
  exact hid block hmem hempty

/-! ### Documents that are read -/

theorem readTagged_id_ne_empty {v : Json} {block : Block}
    (h : Block.readTagged settings v source = (.ok block, rest)) : block.id ≠ "" := by
  obtain ⟨kind, o, -, h⟩ := Block.readTagged_eq_ok.mp h
  exact Block.readId_ne_empty (Block.ofObject_eq_ok.mp h).1

theorem sound_ofObject {o : Json.Object} (h : ofObject settings o source = (.ok d, rest)) :
    d.Sound := by
  refine Sound.of_forall (ofObject_eq_ok.mp h).2.2 fun block hblock => ?_
  obtain ⟨_, -, _, -, _, _, hread⟩ := exists_readTagged_of_ofObject h block hblock
  exact readTagged_id_ne_empty hread

theorem sound_read {v : Json} (h : read settings v source = (.ok d, rest)) : d.Sound := by
  obtain ⟨o, -, h⟩ := read_eq_ok.mp h
  exact sound_ofObject h

/-- A loaded document has been read from the blocks that have been kept and the stored theme. -/
theorem exists_repair_of_load {v : Json} (h : (load settings v source).result = .ok d) :
    ∃ o items r rest, v = .obj o ∧ Stored.items (Stored.member o "blocks") = .ok items ∧
      Stored.repairBlocks settings ⟨[], [], source, []⟩ items = (r, none) ∧
      ofObject settings [("blocks", .arr r.blocks), ("designSettings", Stored.themeOf o)] r.source =
        (.ok d, rest) ∧
      load settings v source = ⟨.ok d, rest, r.warnings⟩ := by
  unfold load at h ⊢
  split at h
  · rename_i o
    split at h
    · contradiction
    · rename_i items hitems
      split at h
      · contradiction
      · rename_i r hrepair
        have hread := Checked.orInvalid_eq_ok.mp h
        refine ⟨o, items, r, _, rfl, hitems, hrepair, Prod.ext hread rfl, ?_⟩
        simp only [hread, Checked.orInvalid]
  · contradiction

theorem exists_ofObject_of_load {v : Json} (h : (load settings v source).result = .ok d) :
    ∃ o ids rest, ofObject settings o ids = (.ok d, rest) := by
  obtain ⟨o, items, r, rest, -, -, -, hread, -⟩ := exists_repair_of_load h
  exact ⟨_, r.source, rest, hread⟩

theorem sound_load {v : Json} (h : (load settings v source).result = .ok d) : d.Sound := by
  obtain ⟨o, ids, rest, h⟩ := exists_ofObject_of_load h
  exact sound_ofObject h

/-! ### Documents that are made anew -/

/-- A block with a drawn id has one of the given contents and no other members. -/
theorem exists_draw_of_mem_drawBlocks {contents : List Content} :
    ∀ block ∈ (drawBlocks contents source).1, ∃ content ∈ contents, ∃ ids : IdSource,
      block = ⟨(ids.draw content.kind.name).1, content, []⟩ := by
  induction contents generalizing source with
  | nil => exact List.forall_mem_nil _
  | cons content contents ih =>
    refine List.forall_mem_cons.mpr ⟨⟨content, List.mem_cons_self, source, rfl⟩, fun b hb => ?_⟩
    obtain ⟨c, hc, hb⟩ := ih b hb
    exact ⟨c, List.mem_cons_of_mem content hc, hb⟩

theorem drawBlocks_of_starter {year : Json} {theme : Theme}
    (h : starter settings year theme source = (.ok d, rest)) :
    ∃ year, d.blocks = (drawBlocks (starterContents settings year) source).1 ∧ d.ids.Nodup := by
  simp only [starter, Prod.mk.injEq, ofParts_eq_ok] at h
  obtain ⟨⟨⟨hblocks, -⟩, hnodup⟩, -⟩ := h
  exact ⟨_, hblocks.symm, hnodup⟩

theorem sound_starter {year : Json} {theme : Theme}
    (h : starter settings year theme source = (.ok d, rest)) : d.Sound := by
  obtain ⟨year, hblocks, hnodup⟩ := drawBlocks_of_starter h
  refine Sound.of_forall hnodup fun block hblock => ?_
  rw [hblocks] at hblock
  obtain ⟨content, -, ids, rfl⟩ := exists_draw_of_mem_drawBlocks block hblock
  exact ids.draw_ne_empty content.kind.name

theorem sound_empty : empty.Sound := ⟨List.nodup_nil, fun hmem => (nomatch hmem)⟩

/-! ### Edited documents -/

theorem exchange_perm {α : Type} (items : List α) (i j : Nat) :
    (exchange items i j).Perm items := by
  unfold exchange
  split
  · rename_i a b ha hb
    obtain ⟨hi, rfl⟩ := List.getElem?_eq_some_iff.mp ha
    obtain ⟨hj, rfl⟩ := List.getElem?_eq_some_iff.mp hb
    exact List.set_set_perm hi hj
  · exact List.Perm.refl items

/-- A move keeps the number of blocks. -/
theorem length_move {index offset : Int} (h : d.move index offset = some e) :
    e.blocks.length = d.blocks.length := by
  obtain ⟨-, i, j, -, -, rfl⟩ := move_eq_some.mp h
  exact (exchange_perm d.blocks i j).length_eq

theorem ids_move_perm {index offset : Int} (h : d.move index offset = some e) :
    e.ids.Perm d.ids := by
  obtain ⟨-, i, j, -, -, rfl⟩ := move_eq_some.mp h
  exact (exchange_perm d.blocks i j).map _

theorem Sound.insert (h : d.Sound) {kind : Json}
    (he : d.insert settings kind source = (.ok e, rest)) : e.Sound := by
  obtain ⟨k, -, rfl, -⟩ := insert_eq_ok he
  refine h.of_perm_cons ?_ (source.fresh_not_mem kind.display d.ids)
    (source.fresh_ne_empty kind.display d.ids)
  simp only [ids, List.map_append, List.map_cons, List.map_nil]
  exact List.perm_append_singleton _ _

theorem Sound.update (h : d.Sound) {id changes : Json} (he : d.update id changes = .ok e) :
    e.Sound :=
  h.of_perm (.of_eq (ids_update he))

theorem Sound.move (h : d.Sound) {index offset : Int} (he : d.move index offset = some e) :
    e.Sound :=
  h.of_perm (ids_move_perm he)

theorem Sound.duplicate (h : d.Sound) {index : Int}
    (he : d.duplicate index source = (.ok e, rest)) : e.Sound := by
  obtain ⟨i, block, hi, -, rfl, -⟩ := duplicate_eq_ok he
  obtain ⟨-, hlt⟩ := position?_eq_some.mp hi
  refine h.of_perm_cons ?_ (source.fresh_not_mem block.kind.name d.ids)
    (source.fresh_ne_empty block.kind.name d.ids)
  exact (List.perm_insertIdx _ _ (Nat.succ_le_of_lt hlt)).map _

theorem Sound.remove (h : d.Sound) {id : Json} (he : d.remove id = some e) : e.Sound := by
  obtain ⟨name, i, -, -, rfl⟩ := remove_eq_some he
  exact h.of_sublist (List.filter_sublist.map _)

theorem Sound.restyle (h : d.Sound) {changes : Json.Object} (he : d.restyle changes = .ok e) :
    e.Sound := by
  obtain ⟨theme, -, rfl⟩ := restyle_eq_ok he
  exact ⟨h.nodup, h.ne_empty⟩

end Document

/-- Whatever an edit makes of a sound document is sound. -/
theorem Edit.sound_apply {d e : Document} (h : d.Sound) {edit : Edit}
    (he : (edit.apply settings d source).1 = .ok (some e)) : e.Sound := by
  cases edit with
  | insert kind => exact h.insert (Prod.ext (map_some_eq_ok.mp he) rfl)
  | update id changes => exact h.update (map_some_eq_ok.mp he)
  | move index offset => exact h.move (Except.ok.inj he)
  | duplicate index => exact h.duplicate (Prod.ext (map_some_eq_ok.mp he) rfl)
  | remove id => exact h.remove (Except.ok.inj he)
  | restyle changes =>
    obtain ⟨values, -, he⟩ := bind_eq_ok.mp (map_some_eq_ok.mp he)
    exact h.restyle he

end MailTemplate
