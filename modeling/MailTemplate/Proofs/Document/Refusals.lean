import Mathlib.Logic.Basic
import MailTemplate.Proofs.Document.Edits

/-!
# Edits that a document does not take

* `Document.Covers` and `Lacks`: the positions of a document, and the values that are the id of none
  of its blocks;
* `Document.Rejects`: the updates that one of its blocks does not take;
* `move_eq_none`, `remove_eq_none`, `update_of_lacks`, `update_of_not_lacks`, `duplicate_of_covers`:
  where an edit makes no document, and where it does.
-/

namespace MailTemplate
namespace Document

variable {d : Document}

/-- An integer is the position of a block. -/
def Covers (d : Document) (n : Int) : Prop := 0 ≤ n ∧ n < d.blocks.length

/-- A value is the id of no block. -/
def Lacks (d : Document) (id : Json) : Prop := ∀ name ∈ d.ids, id ≠ .str name

/-- The block with an id does not take the changes: they are no object, or the attributes that they
would make are not valid. -/
def Rejects (d : Document) (id changes : Json) : Prop :=
  ∃ name block, id = .str name ∧ d.get? name = some block ∧
    ∀ members attributes, changes = .obj members → block.attributes.revise members ≠ .ok attributes

theorem position?_eq_none {n : Int} : d.position? n = none ↔ ¬ d.Covers n := by
  unfold position? Covers
  rw [← decide_eq_true_iff (p := 0 ≤ n ∧ n < d.blocks.length), Bool.decide_and]
  split <;> simp_all

theorem covers_iff {n : Int} : d.Covers n ↔ ∃ i, d.position? n = some i := by
  rw [← not_iff_not, ← position?_eq_none, ← Option.isSome_iff_exists, Bool.not_eq_true,
    Option.isSome_eq_false_iff, Option.isNone_iff_eq_none]

theorem indexOf?_eq_none {name : String} : d.indexOf? name = none ↔ name ∉ d.ids := by
  simp [indexOf?, ids]

theorem get?_eq_bind (d : Document) (name : String) :
    d.get? name = (d.indexOf? name).bind fun i => d.blocks[i]? :=
  List.find?_eq_bind_findIdx?_getElem?

/-- A value that is no id of a block is not found. -/
theorem Lacks.bind_indexOf? {id : Json} (h : d.Lacks id) : id.text?.bind d.indexOf? = none := by
  cases id with
  | str name => exact indexOf?_eq_none.mpr fun hmem => h name hmem rfl
  | _ => rfl

/-- A value that is the id of a block leads to its position. -/
theorem exists_of_not_lacks {id : Json} (h : ¬ d.Lacks id) :
    ∃ name i block, id = .str name ∧ d.indexOf? name = some i ∧ d.blocks[i]? = some block ∧
      d.get? name = some block := by
  simp only [Lacks, not_forall, not_not] at h
  obtain ⟨name, hmem, rfl⟩ := h
  cases hi : d.indexOf? name with
  | none => exact absurd hmem (indexOf?_eq_none.mp hi)
  | some i =>
    obtain ⟨hlt, -⟩ := List.findIdx?_eq_some_iff_getElem.mp hi
    have hblock := List.getElem?_eq_getElem hlt
    exact ⟨name, i, _, rfl, hi, hblock, by rw [get?_eq_bind, hi, Option.bind_some, hblock]⟩

theorem update_of_lacks {id : Json} (h : d.Lacks id) (changes : Json) :
    d.update id changes = .error (.unknownBlock id) := by
  rw [update, h.bind_indexOf?]

/-- An update of a block that is there is either rejected, for another reason than its id, or it
makes a document. -/
theorem update_of_not_lacks {id : Json} (h : ¬ d.Lacks id) (changes : Json) :
    (d.Rejects id changes ∧ ∃ failure, d.update id changes = .error failure ∧
      ∀ v, failure ≠ .unknownBlock v) ∨
    (¬ d.Rejects id changes ∧ ∃ e, d.update id changes = .ok e) := by
  obtain ⟨name, i, block, rfl, hi, hblock, hget⟩ := exists_of_not_lacks h
  cases changes with
  | obj members =>
    simp only [update, Json.text?, Option.bind_some, hi, hblock]
    cases hrevise : block.attributes.revise members with
    | error issues =>
      refine .inl ⟨⟨name, block, rfl, hget, ?_⟩, _, rfl, by simp⟩
      rintro _ attributes ⟨⟩
      simp [hrevise]
    | ok attributes =>
      refine .inr ⟨?_, _, rfl⟩
      rintro ⟨_, _, ⟨⟩, hother, hrejects⟩
      obtain rfl := Option.some.inj (hget.symm.trans hother)
      exact hrejects members attributes rfl hrevise
  | _ =>
    simp only [update, Json.text?, Option.bind_some, hi, hblock]
    exact .inl ⟨⟨name, block, rfl, hget, by simp⟩, _, rfl, by simp⟩

theorem move_eq_none {index offset : Int} :
    d.move index offset = none ↔
      offset = 0 ∨ ¬ d.Covers index ∨ ¬ d.Covers (index + offset) := by
  rw [← position?_eq_none, ← position?_eq_none, ← not_iff_not, ← ne_eq, Option.ne_none_iff_exists']
  simp only [move_eq_some, not_or, ← ne_eq, Option.ne_none_iff_exists']
  grind

theorem remove_eq_none {id : Json} : d.remove id = none ↔ d.Lacks id := by
  constructor
  · intro h
    apply Classical.byContradiction
    intro hlacks
    obtain ⟨name, i, block, rfl, hi, -⟩ := exists_of_not_lacks hlacks
    simp [remove, Json.text?, hi] at h
  · intro h
    have hnone := h.bind_indexOf?
    unfold remove
    cases hname : id.text? with
    | none => rfl
    | some name =>
      rw [hname, Option.bind_some] at hnone
      simp [hnone]

theorem duplicate_of_covers {index : Int} (h : d.Covers index) (source : IdSource) :
    ∃ e, (d.duplicate index source).1 = .ok e := by
  obtain ⟨i, hi⟩ := covers_iff.mp h
  obtain ⟨rfl, hlt⟩ := position?_eq_some.mp hi
  exact ⟨_, congrArg Prod.fst (duplicate_of_getElem? (List.getElem?_eq_getElem hlt) source)⟩

end Document
end MailTemplate
