import Mathlib.Data.List.Nodup
import MailTemplate.Proofs.Document.Growth
import MailTemplate.Proofs.Document.Reachable
import MailTemplate.Proofs.Document.Refusals

/-!
# Edits that are taken back

Moving, removing and adding a block leave all else as it is, so that an edit of the same sort leads
back to the document before.

* `ExchangedAt` and `move_eq_some_iff`: a move exchanges two blocks, whatever integers it is given;
* `remove_eq_some_iff`: a removal takes out the one block with an id, so it is the way back from
  `GrownAt`;
* `edits_reversible`: when each of these edits changes a document in use, and what leads back.
-/

namespace MailTemplate
namespace Document

variable {d e e' : Document} {i j : Nat}

/-! ### Moves -/

theorem getElem?_exchange {α : Type} {items : List α} (hi : i < items.length)
    (hj : j < items.length) (k : Nat) :
    (exchange items i j)[k]? =
      if k = i then items[j]? else if k = j then items[i]? else items[k]? := by
  rw [exchange, List.getElem?_eq_getElem hi, List.getElem?_eq_getElem hj]
  simp only [List.getElem?_set, List.length_set]
  grind

/-- A document with the blocks at two positions exchanged, and all else in its place. -/
structure ExchangedAt (d e : Document) (i j : Nat) : Prop where
  theme_eq : e.theme = d.theme
  left : e.blocks[i]? = d.blocks[j]?
  right : e.blocks[j]? = d.blocks[i]?
  other : ∀ k, k ≠ i → k ≠ j → e.blocks[k]? = d.blocks[k]?

theorem exchangedAt_exchange (hi : i < d.blocks.length) (hj : j < d.blocks.length) :
    d.ExchangedAt { d with blocks := exchange d.blocks i j } i j where
  theme_eq := rfl
  left := by rw [getElem?_exchange hi hj, if_pos rfl]
  right := by
    rw [getElem?_exchange hi hj]
    split
    · rename_i hji
      rw [hji]
    · rw [if_pos rfl]
  other := fun k hki hkj => by rw [getElem?_exchange hi hj, if_neg hki, if_neg hkj]

theorem ExchangedAt.symm (h : d.ExchangedAt e i j) : e.ExchangedAt d j i where
  theme_eq := h.theme_eq.symm
  left := h.left.symm
  right := h.right.symm
  other := fun k hkj hki => (h.other k hki hkj).symm

/-- There is only one such document. -/
theorem ExchangedAt.unique (h : d.ExchangedAt e i j) (h' : d.ExchangedAt e' i j) : e = e' := by
  have hblocks : e.blocks = e'.blocks := by
    apply List.ext_getElem?
    intro k
    by_cases hki : k = i
    · rw [hki, h.left, h'.left]
    · by_cases hkj : k = j
      · rw [hkj, h.right, h'.right]
      · rw [h.other k hki hkj, h'.other k hki hkj]
  have htheme : e.theme = e'.theme := h.theme_eq.trans h'.theme_eq.symm
  obtain ⟨blocks, theme⟩ := e
  obtain ⟨blocks', theme'⟩ := e'
  obtain rfl : blocks = blocks' := hblocks
  obtain rfl : theme = theme' := htheme
  rfl

/-- The integers of a move count from the first block and never from the last one. -/
theorem move_eq_some_iff {index offset : Int} :
    d.move index offset = some e ↔ offset ≠ 0 ∧ ∃ i j : Nat, index = i ∧ index + offset = j ∧
      i < d.blocks.length ∧ j < d.blocks.length ∧ d.ExchangedAt e i j := by
  simp only [move_eq_some, position?_eq_some]
  constructor
  · rintro ⟨hoffset, i, j, ⟨hindex, hi⟩, ⟨htarget, hj⟩, rfl⟩
    exact ⟨hoffset, i, j, hindex, htarget, hi, hj, exchangedAt_exchange hi hj⟩
  · rintro ⟨hoffset, i, j, hindex, htarget, hi, hj, h⟩
    exact ⟨hoffset, i, j, ⟨hindex, hi⟩, ⟨htarget, hj⟩, h.unique (exchangedAt_exchange hi hj)⟩

/-- A block that has been moved is moved back by the opposite offset. -/
theorem move_neg {index offset : Int} (h : d.move index offset = some e) :
    e.move (index + offset) (-offset) = some d := by
  have hlength := length_move h
  obtain ⟨hoffset, i, j, hindex, htarget, hi, hj, hexchanged⟩ := move_eq_some_iff.mp h
  rw [← hlength] at hi hj
  exact move_eq_some_iff.mpr ⟨by omega, j, i, htarget, by omega, hj, hi, hexchanged.symm⟩

/-! ### Removals -/

/-- Where ids differ from each other, no block but one is removed by its id. -/
theorem Sound.filter_id_ne (h : d.Sound) {block : Block} (hblock : d.blocks[i]? = some block) :
    d.blocks.filter (·.id ≠ block.id) = d.blocks.eraseIdx i := by
  obtain ⟨hi, rfl⟩ := List.getElem?_eq_some_iff.mp hblock
  have hnodup : d.blocks.Nodup := h.nodup.of_map
  calc d.blocks.filter (·.id ≠ d.blocks[i].id)
      = d.blocks.filter (· != d.blocks[i]) := by
        refine List.filter_congr fun b hb => ?_
        have hinj := List.inj_on_of_nodup_map h.nodup hb (List.getElem_mem hi)
        grind
    _ = d.blocks.erase d.blocks[i] := (hnodup.erase_eq_filter _).symm
    _ = d.blocks.eraseIdx i := hnodup.erase_getElem i hi

theorem remove_eq_some_iff (h : d.Sound) {id : Json} :
    d.remove id = some e ↔ ∃ i block, id = .str block.id ∧ e.GrownAt d i block := by
  constructor
  · intro hremove
    obtain ⟨name, i, rfl, hindex, rfl⟩ := remove_eq_some hremove
    obtain ⟨hi, hid, -⟩ := List.findIdx?_eq_some_iff_getElem.mp hindex
    have hblock := List.getElem?_eq_getElem hi
    obtain rfl : d.blocks[i].id = name := by simpa using hid
    exact ⟨i, _, rfl, rfl, hblock, (h.filter_id_ne hblock).symm⟩
  · rintro ⟨i, block, rfl, htheme, hblock, herase⟩
    have hindex := h.indexOf?_id hblock
    have hblocks := (h.filter_id_ne hblock).trans herase
    simp only [remove, Json.text?, hindex, Option.bind_eq_bind, Option.bind_some]
    rw [hblocks, htheme]

/-! ### The way back -/

/-- A move changes a document exactly if it moves a block by some places within it. It exchanges the
two blocks there and keeps the others, all ids and the theme, and the opposite move leads back. A
removal changes a document exactly if it has a block with the id, and takes this block alone out.
What has been inserted or copied can be removed again, which leads back, too. -/
theorem edits_reversible (h : d.Reachable) (settings : Settings) (source : IdSource) :
    (∀ index offset : Int,
      (d.move index offset = none ↔
        offset = 0 ∨ ¬ d.Covers index ∨ ¬ d.Covers (index + offset)) ∧
      ∀ e, d.move index offset = some e →
        (∃ i j : Nat, index = i ∧ index + offset = j ∧ d.ExchangedAt e i j) ∧
        e.ids.Perm d.ids ∧ e.move (index + offset) (-offset) = some d) ∧
    (∀ id : Json,
      (d.remove id = none ↔ d.Lacks id) ∧
      ∀ e, d.remove id = some e → ∃ i block, id = .str block.id ∧ e.GrownAt d i block) ∧
    (∀ kind : Kind, ∃ e rest block, d.insert settings (.str kind.name) source = (.ok e, rest) ∧
      d.GrownAt e d.blocks.length block ∧ e.remove (.str block.id) = some d) ∧
    ∀ index : Int, d.Covers index → ∃ e rest block, d.duplicate index source = (.ok e, rest) ∧
      d.GrownAt e (index.toNat + 1) block ∧ e.remove (.str block.id) = some d := by
  refine ⟨fun index offset => ⟨move_eq_none, fun e he => ⟨?_, ids_move_perm he, move_neg he⟩⟩,
    fun id => ⟨remove_eq_none, fun e => (remove_eq_some_iff h.sound).mp⟩, fun kind => ?_,
    fun index hindex => ?_⟩
  · obtain ⟨-, i, j, hindex, htarget, -, -, hexchanged⟩ := move_eq_some_iff.mp he
    exact ⟨i, j, hindex, htarget, hexchanged⟩
  · have hinsert := insert_of_kind settings d source kind
    have hgrown := grownAt_append d ⟨(source.fresh kind.name d.ids).1, .standard settings kind⟩
    exact ⟨_, _, _, hinsert, hgrown,
      (remove_eq_some_iff (h.sound.insert hinsert)).mpr ⟨_, _, rfl, hgrown⟩⟩
  · obtain ⟨i, hi⟩ := covers_iff.mp hindex
    obtain ⟨rfl, hlt⟩ := position?_eq_some.mp hi
    have hduplicate := duplicate_of_getElem? (List.getElem?_eq_getElem hlt) source
    have hgrown := grownAt_insertIdx (Nat.succ_le_of_lt hlt)
      { d.blocks[i] with id := (source.fresh d.blocks[i].kind.name d.ids).1 }
    exact ⟨_, _, _, hduplicate, hgrown,
      (remove_eq_some_iff (h.sound.duplicate hduplicate)).mpr ⟨_, _, rfl, hgrown⟩⟩

/-- The last block is moved to the front and back. An index below zero is none, and a copy whose
first drawn id is taken can be removed. -/
theorem edits_reversible_spacers :
    let settings : Settings := ⟨2024, "", "", ""⟩
    let v : Json := .obj [("blocks", .arr [
      .obj [("type", .str "spacer"), ("id", .str "spacer-a")],
      .obj [("type", .str "divider"), ("id", .str "b")],
      .obj [("type", .str "spacer"), ("id", .str "c"), ("content", .obj [("height", .int 8)])]])]
    let first : Block := ⟨"spacer-a", .standard settings .spacer⟩
    let middle : Block := ⟨"b", .standard settings .divider⟩
    let last : Block := ⟨"c", ⟨.spacer (.int 8), []⟩⟩
    let d : Document := ⟨[first, middle, last], .standard⟩
    let e : Document := ⟨[last, middle, first], .standard⟩
    read settings v ⟨[], 0⟩ = (.ok d, ⟨[], 0⟩) ∧
      d.move (-1) 1 = none ∧ d.move 2 (-2) = some e ∧ e.move 0 2 = some d ∧
      ∃ f rest block, d.duplicate 0 ⟨["a", "d"], 0⟩ = (.ok f, rest) ∧
        d.GrownAt f 1 block ∧ f.remove (.str block.id) = some d := by
  intro settings v first middle last d e
  have hread : read settings v ⟨[], 0⟩ = (.ok d, ⟨[], 0⟩) := by rfl
  have hmove : d.move 2 (-2) = some e := by rfl
  have hcovers : ¬ d.Covers (-1) := by simp [Covers]
  obtain ⟨hmoves, -, -, hcopies⟩ := edits_reversible (.read hread) settings ⟨["a", "d"], 0⟩
  exact ⟨hread, (hmoves (-1) 1).1.mpr (.inr (.inl hcovers)), hmove,
    ((hmoves 2 (-2)).2 e hmove).2.2, hcopies 0 ⟨by decide, by decide⟩⟩

end Document
end MailTemplate
