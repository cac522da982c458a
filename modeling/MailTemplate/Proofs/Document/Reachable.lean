import MailTemplate.Proofs.Attributes
import MailTemplate.Proofs.Document.Sound

/-!
# Documents in use

A document in use has been read, loaded or begun anew, and then edited any number of times.

* `Document.Reachable`: the documents in use, under any settings and sources of ids;
* `Block.attributes_of_readTagged` and `Document.forall_attributes_apply`: where the attributes of a
  block come from;
* `Attributes.IsRead` and `Reachable.isRead`: the attributes of their blocks have been read from an
  object, whatever has become of the document since;
* `Reachable.sound`: their ids tell the blocks apart.
-/

namespace MailTemplate

variable {settings : Settings} {source rest : IdSource}

/-- A document that has been read, loaded or begun anew, and edited since. -/
inductive Document.Reachable : Document → Prop
  | read {settings : Settings} {v : Json} {source rest : IdSource} {d : Document}
      (h : Document.read settings v source = (.ok d, rest)) : Reachable d
  | load {settings : Settings} {v : Json} {source : IdSource} {d : Document}
      (h : (Document.load settings v source).result = .ok d) : Reachable d
  | starter {settings : Settings} {year : Json} {theme : Theme} {source rest : IdSource}
      {d : Document} (h : Document.starter settings year theme source = (.ok d, rest)) : Reachable d
  | edit {settings : Settings} {edit : Edit} {source : IdSource} {d e : Document}
      (hd : Reachable d) (h : (edit.apply settings d source).1 = .ok (some e)) : Reachable e

theorem Document.Reachable.sound {d : Document} (h : d.Reachable) : d.Sound := by
  induction h with
  | read h => exact sound_read h
  | load h => exact sound_load h
  | starter h => exact sound_starter h
  | edit _ h ih => exact Edit.sound_apply ih h

/-! ### Where attributes come from -/

/-- Attributes that have been read from the members of an object. -/
def Attributes.IsRead (a : Attributes) : Prop :=
  ∃ kind defaults o, Attributes.ofObject kind defaults o = .ok a

/-- A content without other members is that of an empty object. -/
theorem Attributes.isRead_of_content (content : Content) : IsRead ⟨content, []⟩ :=
  ⟨content.kind, content.toRecord, [], by rw [ofObject_nil, Content.ofRecord_toRecord]⟩

theorem Attributes.isRead_standard (settings : Settings) (kind : Kind) :
    (standard settings kind).IsRead :=
  isRead_of_content _

theorem Attributes.isRead_read {kind : Kind} {v : Json} {a : Attributes}
    (h : Attributes.read settings kind v = .ok a) : a.IsRead := by
  obtain ⟨o, -, h⟩ := bind_eq_ok.mp h
  exact ⟨kind, _, o, h⟩

/-- The attributes of a block are read from a member, or they are standard ones. -/
theorem Block.attributes_of_readTagged {v : Json} {block : Block}
    (h : readTagged settings v source = (.ok block, rest)) :
    ∃ kind o, v = .obj o ∧
      ((∃ m ∈ o, Attributes.read settings kind m.2 = .ok block.attributes) ∨
        block.attributes = .standard settings kind) := by
  obtain ⟨kind, o, htagged, h⟩ := readTagged_eq_ok.mp h
  have hattributes := (ofObject_eq_ok.mp h).2
  refine ⟨kind, o, (Kind.asTagged_eq_ok.mp htagged).1, ?_⟩
  unfold Json.Object.optional at hattributes
  split at hattributes
  · rename_i hfind
    exact .inl ⟨_, Json.Object.mem_of_find? hfind, Checked.under_eq_ok.mp hattributes⟩
  · exact .inr (Except.ok.inj hattributes).symm

theorem Block.isRead_readTagged {v : Json} {block : Block}
    (h : readTagged settings v source = (.ok block, rest)) : block.attributes.IsRead := by
  obtain ⟨kind, o, -, ⟨m, -, hread⟩ | hstandard⟩ := attributes_of_readTagged h
  · exact Attributes.isRead_read hread
  · rw [hstandard]
    exact Attributes.isRead_standard settings kind

namespace Document

variable {d e : Document}

/-- An edit leaves the attributes of a block as they are, it adds standard ones, or it revises
them. -/
theorem forall_attributes_apply {P : Attributes → Prop} {edit : Edit}
    (hstandard : ∀ kind, P (.standard settings kind))
    (hrevise : ∀ id changes, edit = .update id (.obj changes) → ∀ {a b : Attributes}, P a →
      a.revise changes = .ok b → P b)
    (hd : ∀ block ∈ d.blocks, P block.attributes)
    (h : (edit.apply settings d source).1 = .ok (some e)) :
    ∀ block ∈ e.blocks, P block.attributes := by
  intro b hb
  cases edit with
  | insert kind =>
    obtain ⟨k, -, rfl, -⟩ := insert_eq_ok (Prod.ext (map_some_eq_ok.mp h) rfl)
    rcases List.mem_append.mp hb with hb | hb
    · exact hd b hb
    · obtain rfl := List.mem_singleton.mp hb
      exact hstandard k
  | update id changes =>
    obtain ⟨_, i, block, members, attributes, -, -, hblock, rfl, hread, rfl⟩ :=
      update_eq_ok (map_some_eq_ok.mp h)
    rcases List.mem_or_eq_of_mem_set hb with hb | rfl
    · exact hd b hb
    · exact hrevise id members rfl (hd block (List.mem_of_getElem? hblock)) hread
  | move index offset =>
    obtain ⟨-, i, j, -, -, rfl⟩ := move_eq_some.mp (Except.ok.inj h)
    exact hd b ((exchange_perm d.blocks i j).mem_iff.mp hb)
  | duplicate index =>
    obtain ⟨i, block, hi, hblock, rfl, -⟩ := duplicate_eq_ok (Prod.ext (map_some_eq_ok.mp h) rfl)
    obtain ⟨-, hlt⟩ := position?_eq_some.mp hi
    rcases (List.mem_insertIdx (Nat.succ_le_of_lt hlt)).mp hb with rfl | hb
    · exact hd block (List.mem_of_getElem? hblock)
    · exact hd b hb
  | remove id =>
    obtain ⟨_, _, -, -, rfl⟩ := remove_eq_some (Except.ok.inj h)
    exact hd b (List.mem_of_mem_filter hb)
  | restyle changes =>
    obtain ⟨_, -, h⟩ := bind_eq_ok.mp (map_some_eq_ok.mp h)
    obtain ⟨_, -, rfl⟩ := restyle_eq_ok h
    exact hd b hb

theorem isRead_ofObject {o : Json.Object} (h : ofObject settings o source = (.ok d, rest)) :
    ∀ block ∈ d.blocks, block.attributes.IsRead := by
  intro block hblock
  obtain ⟨_, -, _, -, _, _, hread⟩ := exists_readTagged_of_ofObject h block hblock
  exact Block.isRead_readTagged hread

theorem Reachable.isRead (h : d.Reachable) : ∀ block ∈ d.blocks, block.attributes.IsRead := by
  induction h with
  | read h =>
    obtain ⟨o, -, h⟩ := read_eq_ok.mp h
    exact isRead_ofObject h
  | load h =>
    obtain ⟨o, ids, rest, h⟩ := exists_ofObject_of_load h
    exact isRead_ofObject h
  | starter h =>
    intro block hblock
    obtain ⟨year, hblocks, -⟩ := drawBlocks_of_starter h
    rw [hblocks] at hblock
    obtain ⟨content, -, ids, rfl⟩ := exists_draw_of_mem_drawBlocks block hblock
    exact Attributes.isRead_of_content content
  | @edit settings _ _ _ _ _ h ih =>
    exact forall_attributes_apply (Attributes.isRead_standard settings)
      (fun _ _ _ _ _ _ hrevise => ⟨_, _, _, hrevise⟩) ih h

end Document
end MailTemplate
