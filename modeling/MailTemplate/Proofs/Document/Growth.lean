import Mathlib.Data.List.InsertIdx
import MailTemplate.Proofs.Document.Edits
import MailTemplate.Proofs.IdSource.Search

/-!
# One block more

A new block and a copy of a block get the first free id that is drawn, and they leave all that is
there in its place.

* `GrownAt` and `GrownAt.eq_insertIdx`: the document with one block more at some position;
* `grows_by_fresh`: that is what an insertion and a duplication make, whatever the source of ids.
-/

namespace MailTemplate
namespace Document

open IdSource

variable {d e : Document} {i : Nat} {block : Block}

/-- A document with one block more, at a position. Without it, it is the other one. -/
structure GrownAt (d e : Document) (i : Nat) (block : Block) : Prop where
  theme_eq : e.theme = d.theme
  getElem? : e.blocks[i]? = some block
  eraseIdx : e.blocks.eraseIdx i = d.blocks

theorem grownAt_append (d : Document) (block : Block) :
    d.GrownAt { d with blocks := d.blocks ++ [block] } d.blocks.length block where
  theme_eq := rfl
  getElem? := List.getElem?_concat_length
  eraseIdx := by
    rw [List.eraseIdx_append_of_length_le (Nat.le_refl _), Nat.sub_self]
    exact List.append_nil d.blocks

theorem grownAt_insertIdx (hi : i ≤ d.blocks.length) (block : Block) :
    d.GrownAt { d with blocks := d.blocks.insertIdx i block } i block where
  theme_eq := rfl
  getElem? := by simp [List.getElem?_insertIdx_self, hi]
  eraseIdx := List.eraseIdx_insertIdx_self block

/-- There is only one such document. -/
theorem GrownAt.eq_insertIdx (h : d.GrownAt e i block) :
    e = { d with blocks := d.blocks.insertIdx i block } := by
  obtain ⟨blocks, theme⟩ := e
  obtain ⟨rfl, hblock, herase⟩ := h
  obtain ⟨hi, rfl⟩ := List.getElem?_eq_some_iff.mp hblock
  rw [← herase, List.insertIdx_eraseIdx_getElem hi]

/-- Whatever the source of ids, an insertion and a duplication end. Their draws are at most one for each
text of the script, one for each block and one more. The first drawn id that no block has is that of
the one new block: at the end with the attributes of its kind, or after a block with the attributes
of that block. -/
theorem grows_by_fresh (settings : Settings) (d : Document) (source : IdSource) :
    (∀ kind : Kind, ∃ m ≤ source.script.length + d.blocks.length, ∃ e : Document,
      EndsAt kind.name d.ids source m ∧
      d.insert settings (.str kind.name) source = (.ok e, source.skip (m + 1)) ∧
      d.GrownAt e d.blocks.length ⟨source.nth kind.name m, .standard settings kind⟩) ∧
    ∀ (i : Nat) (block : Block), d.blocks[i]? = some block →
      ∃ m ≤ source.script.length + d.blocks.length, ∃ e : Document,
        EndsAt block.kind.name d.ids source m ∧
        d.duplicate i source = (.ok e, source.skip (m + 1)) ∧
        d.GrownAt e (i + 1) ⟨source.nth block.kind.name m, block.attributes⟩ := by
  have hlength : d.ids.length = d.blocks.length := List.length_map _
  constructor
  · intro kind
    obtain ⟨m, hm, hends, hfresh⟩ := exists_endsAt kind.name d.ids source
    refine ⟨m, hlength ▸ hm, _, hends, ?_, grownAt_append d _⟩
    rw [insert_of_kind, hfresh]
  · intro i block hblock
    obtain ⟨m, hm, hends, hfresh⟩ := exists_endsAt block.kind.name d.ids source
    have hi : i < d.blocks.length := (List.getElem?_eq_some_iff.mp hblock).1
    refine ⟨m, hlength ▸ hm, _, hends, ?_, grownAt_insertIdx hi _⟩
    rw [duplicate_of_getElem? hblock, hfresh]

/-- Two drawn ids are taken. The copy of the first block gets the one after them. -/
theorem grows_by_fresh_third :
    let settings : Settings := ⟨2024, "", "", ""⟩
    let spacer (id : String) : Block := ⟨id, .standard settings .spacer⟩
    let d : Document := ⟨[spacer "spacer-b", spacer "spacer-a"], .standard⟩
    let copy : Block := spacer "spacer-000000000003"
    let e : Document := ⟨[spacer "spacer-b", copy, spacer "spacer-a"], .standard⟩
    d.blocks[0]? = some (spacer "spacer-b") ∧
      d.duplicate 0 ⟨["a", "b"], 0⟩ = (.ok e, ⟨[], 3⟩) := by
  intro settings spacer d copy e
  have hblock : d.blocks[0]? = some (spacer "spacer-b") := rfl
  refine ⟨hblock, ?_⟩
  let source : IdSource := ⟨["a", "b"], 0⟩
  obtain ⟨m, -, e', hends, hduplicate, hgrown⟩ := (grows_by_fresh settings d source).2 0 _ hblock
  have htaken : ∀ j < 2, source.nth "spacer" j ∈ d.ids := by decide
  have hfree : source.nth "spacer" 2 ∉ d.ids := by decide
  obtain rfl : 2 = m := first_unique hends.passed hends.free htaken hfree
  have hid : source.nth "spacer" 2 = "spacer-000000000003" := by decide
  have he : e' = e := by
    rw [hgrown.eq_insertIdx]
    exact congrArg (fun id => mk [spacer "spacer-b", spacer id, spacer "spacer-a"] .standard) hid
  rw [← he]
  exact hduplicate

end Document
end MailTemplate
