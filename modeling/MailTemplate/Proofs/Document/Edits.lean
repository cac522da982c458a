import MailTemplate.Edit
import MailTemplate.Proofs.Checked
import MailTemplate.Proofs.IdSource.Fresh

/-!
# What each edit does to a document

One statement for each edit: when it makes a document, and which one.

* `insert_eq_ok`, `update_eq_ok`, `move_eq_some`, `duplicate_eq_ok`, `remove_eq_some`,
  `restyle_eq_ok`;
* `insert_of_kind` and `duplicate_of_getElem?`: the two edits that draw an id, where they are done;
* `position?_eq_some` and `getElem?_ids`: the positions that they look up, and the ids there;
* `ids_update` and `indexOf?_eq_findIdx?`: an update leaves the ids, and so the place of each, as
  they are.
-/

namespace MailTemplate
namespace Document

variable {settings : Settings} {d e : Document} {source rest : IdSource}

/-! ### Positions -/

theorem position?_eq_some {n : Int} {i : Nat} :
    d.position? n = some i ↔ n = i ∧ i < d.blocks.length := by
  unfold position?
  split
  · rename_i h
    rw [Bool.and_eq_true, decide_eq_true_eq, decide_eq_true_eq] at h
    rw [Option.some.injEq]
    omega
  · rename_i h
    rw [Bool.and_eq_true, decide_eq_true_eq, decide_eq_true_eq] at h
    constructor
    · intro h
      contradiction
    · rintro ⟨rfl, hi⟩
      exact absurd ⟨Int.natCast_nonneg i, Int.ofNat_lt.mpr hi⟩ h

theorem getElem?_ids {i : Nat} {block : Block} (h : d.blocks[i]? = some block) :
    d.ids[i]? = some block.id := by
  rw [ids, List.getElem?_map, h, Option.map_some]

theorem id_mem_ids {i : Nat} {block : Block} (h : d.blocks[i]? = some block) : block.id ∈ d.ids :=
  List.mem_of_getElem? (getElem?_ids h)

/-! ### Edits -/

theorem insert_eq_ok {kind : Json} (h : d.insert settings kind source = (.ok e, rest)) :
    ∃ k, Kind.resolve kind = .ok k ∧
      e = { d with
        blocks := d.blocks ++ [⟨(source.fresh kind.display d.ids).1, .standard settings k⟩] } ∧
      rest = (source.fresh kind.display d.ids).2 := by
  obtain ⟨hresult, hrest⟩ := Prod.mk.inj h
  obtain ⟨k, hk, he⟩ := map_eq_ok.mp hresult
  exact ⟨k, hk, he.symm, hrest.symm⟩

/-- A kind is looked up by its name. -/
theorem insert_of_kind (settings : Settings) (d : Document) (source : IdSource) (kind : Kind) :
    d.insert settings (.str kind.name) source =
      (.ok { d with
        blocks := d.blocks ++ [⟨(source.fresh kind.name d.ids).1, .standard settings kind⟩] },
        (source.fresh kind.name d.ids).2) := by
  have hresolve : Kind.resolve (.str kind.name) = .ok kind := Kind.resolve_eq_ok.mpr rfl
  simp only [insert, hresolve]
  rfl

theorem update_eq_ok {id changes : Json} (h : d.update id changes = .ok e) :
    ∃ name i block members attributes, id = .str name ∧ d.indexOf? name = some i ∧
      d.blocks[i]? = some block ∧ changes = .obj members ∧
      block.attributes.revise members = .ok attributes ∧
      e = { d with blocks := d.blocks.set i { block with attributes } } := by
  unfold update at h
  split at h
  · contradiction
  · rename_i i hi
    obtain ⟨name, hname, hi⟩ := Option.bind_eq_some_iff.mp hi
    have hid : id = .str name := by
      cases id <;> simp [Json.text?] at hname
      rw [hname]
    split at h
    · rename_i block members hblock
      obtain ⟨attributes, hattributes, he⟩ := map_eq_ok.mp h
      exact ⟨name, i, block, members, attributes, hid, hi, hblock, rfl,
        Checked.orInvalid_eq_ok.mp hattributes, he.symm⟩
    · contradiction

/-- An update replaces a block in its place. -/
theorem length_update {id changes : Json} (h : d.update id changes = .ok e) :
    e.blocks.length = d.blocks.length := by
  obtain ⟨_, i, _, _, _, -, -, -, -, -, rfl⟩ := update_eq_ok h
  exact List.length_set

/-- The block that is replaced keeps its id, so that the ids are set to what they are. -/
theorem ids_update {id changes : Json} (h : d.update id changes = .ok e) : e.ids = d.ids := by
  obtain ⟨_, i, block, _, _, -, -, hblock, -, -, rfl⟩ := update_eq_ok h
  obtain ⟨hi, rfl⟩ := List.getElem?_eq_some_iff.mp hblock
  apply List.ext_getElem?
  intro j
  simp only [ids, List.getElem?_map, List.getElem?_set]
  split
  · rename_i hij
    subst hij
    simp [hi]
  · rfl

theorem indexOf?_eq_findIdx? (d : Document) (id : String) :
    d.indexOf? id = d.ids.findIdx? (· = id) := by
  rw [ids, List.findIdx?_map]
  rfl

theorem move_eq_some {index offset : Int} :
    d.move index offset = some e ↔ offset ≠ 0 ∧
      ∃ i j, d.position? index = some i ∧ d.position? (index + offset) = some j ∧
        e = { d with blocks := exchange d.blocks i j } := by
  unfold move
  split
  · rename_i h
    simp [h]
  · rename_i h
    split
    · rename_i i j hi hj
      simp [h, hi, hj, eq_comm]
    · rename_i hnone
      constructor
      · intro h
        contradiction
      · rintro ⟨-, i, j, hi, hj, -⟩
        exact absurd hj (hnone i j hi)

theorem duplicate_eq_ok {index : Int} (h : d.duplicate index source = (.ok e, rest)) :
    ∃ i block, d.position? index = some i ∧ d.blocks[i]? = some block ∧
      e = { d with
        blocks := d.blocks.insertIdx (i + 1)
          { block with id := (source.fresh block.kind.name d.ids).1 } } ∧
      rest = (source.fresh block.kind.name d.ids).2 := by
  unfold duplicate at h
  split at h
  · exact nomatch (Prod.mk.inj h).1
  · rename_i i hi
    split at h
    · exact nomatch (Prod.mk.inj h).1
    · rename_i block hblock
      obtain ⟨he, hrest⟩ := Prod.mk.inj h
      exact ⟨i, block, hi, hblock, (Except.ok.inj he).symm, hrest.symm⟩

theorem duplicate_of_getElem? {i : Nat} {block : Block} (h : d.blocks[i]? = some block)
    (source : IdSource) :
    d.duplicate i source =
      (.ok { d with
        blocks := d.blocks.insertIdx (i + 1)
          { block with id := (source.fresh block.kind.name d.ids).1 } },
        (source.fresh block.kind.name d.ids).2) := by
  have hi : i < d.blocks.length := (List.getElem?_eq_some_iff.mp h).1
  have hposition : d.position? i = some i := position?_eq_some.mpr ⟨rfl, hi⟩
  simp only [duplicate, hposition, h]

theorem remove_eq_some {id : Json} (h : d.remove id = some e) :
    ∃ name i, id = .str name ∧ d.indexOf? name = some i ∧
      e = { d with blocks := d.blocks.filter (·.id ≠ name) } := by
  obtain ⟨name, hname, h⟩ := Option.bind_eq_some_iff.mp h
  obtain ⟨i, hi, h⟩ := Option.bind_eq_some_iff.mp h
  have hid : id = .str name := by
    cases id <;> simp [Json.text?] at hname
    rw [hname]
  exact ⟨name, i, hid, hi, (Option.some.inj h).symm⟩

theorem restyle_eq_ok {changes : Json.Object} (h : d.restyle changes = .ok e) :
    ∃ theme, d.theme.revise changes = .ok theme ∧ e = { d with theme } := by
  obtain ⟨theme, htheme, he⟩ := map_eq_ok.mp h
  exact ⟨theme, Checked.orInvalid_eq_ok.mp htheme, he.symm⟩

end Document
end MailTemplate
