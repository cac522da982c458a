import MailTemplate.Proofs.Document.Reachable
import MailTemplate.Proofs.Record

/-!
# What is written is read back

A document in use is written as JSON in a form from which it is read back as it was, and without a
draw.

* `Attributes.ofObject_toObject`: attributes, in which no member beside the declared fields has the
  name of a field on the wire;
* `Theme.read_toObject`, `Block.readTagged_toJson` and `Document.readBlocks_toJson`: themes and
  blocks;
* `Document.ofObject_toObject`, `read_toJson` and `round_trip`: documents in use.
-/

namespace MailTemplate

variable {settings : Settings} {source : IdSource}

theorem Kind.nodup_wires (kind : Kind) : (kind.fields.map (·.name.wire)).Nodup := by
  cases kind <;> decide

/-! ### Attributes and themes -/

namespace Attributes

variable {a : Attributes}

/-- Attributes that have been read have no further member under the name of a field on the wire. -/
theorem IsRead.ne_wire (h : a.IsRead) {m : String × Json} (hm : m ∈ a.extra) {f : Field}
    (hf : f ∈ a.content.kind.fields) : m.1 ≠ f.name.wire := by
  obtain ⟨kind, defaults, o, h⟩ := h
  obtain ⟨record, -, rfl⟩ := ofObject_eq_ok.mp h
  rw [Content.kind_ofRecord] at hf
  exact Record.ne_wire_of_mem_unused hm hf

theorem ofObject_toObject (h : a.IsRead) (defaults : Record a.content.kind.fields) :
    ofObject a.content.kind defaults a.toObject = .ok a := by
  refine ofObject_eq_ok.mpr ⟨a.content.toRecord, ?_, ?_⟩
  · exact Record.read_toObject a.content.kind.nodup_wires _ _ _
  · rw [toObject, Record.unused_toObject _ fun m hm f hf => h.ne_wire hm hf,
      Content.ofRecord_toRecord]

theorem read_toObject (h : a.IsRead) (settings : Settings) :
    read settings a.content.kind (.obj a.toObject) = .ok a :=
  ofObject_toObject h _

end Attributes

theorem Theme.read_toObject (t : Theme) : Theme.read (.obj t.toObject) = .ok t := by
  have hnodup : (fields.map (·.name.wire)).Nodup := by decide
  have hrecord := Record.read_toObject hnodup standard.toRecord t.toRecord []
  rw [List.append_nil] at hrecord
  have hobject : ofObject t.toObject = .ok t := by
    rw [ofObject, toObject, hrecord]
    rfl
  exact hobject

/-! ### Blocks and documents -/

theorem Block.readTagged_toJson {block : Block} (hid : block.id ≠ "")
    (h : block.attributes.IsRead) :
    readTagged settings block.toJson source = (.ok block, source) :=
  readTagged_members hid (Attributes.read_toObject h settings)

namespace Document

variable {d : Document}

theorem readBlocks_toJson {blocks : List Block}
    (h : ∀ block ∈ blocks, block.id ≠ "" ∧ block.attributes.IsRead) (position : Nat) :
    readBlocks settings position (blocks.map Block.toJson) source = (.ok blocks, source) := by
  induction blocks generalizing position with
  | nil => rfl
  | cons block blocks ih =>
    rw [List.forall_mem_cons] at h
    exact readBlocks_cons_eq_ok.mpr
      ⟨_, _, _, Block.readTagged_toJson h.1.1 h.1.2, ih h.2 (position + 1), rfl⟩

theorem ofObject_toObject (h : d.Reachable) (settings : Settings) (source : IdSource) :
    ofObject settings d.toObject source = (.ok d, source) := by
  have hblocks : ∀ block ∈ d.blocks, block.id ≠ "" ∧ block.attributes.IsRead :=
    fun block hblock => ⟨h.sound.id_ne_empty hblock, h.isRead block hblock⟩
  exact ofObject_members_eq_ok.mpr
    ⟨readBlocks_toJson hblocks 0, Theme.read_toObject d.theme, h.sound.nodup⟩

theorem read_toJson (h : d.Reachable) (settings : Settings) (source : IdSource) :
    read settings d.toJson source = (.ok d, source) :=
  read_eq_ok.mpr ⟨d.toObject, rfl, ofObject_toObject h settings source⟩

/-- A document in use is read back from its written form as it was, under any settings and without a
draw: a number keeps its kind, and the members beside the declared fields are kept. Written again it
is the same JSON, and no other document in use is written like it. -/
theorem round_trip (h : d.Reachable) (settings : Settings) (source : IdSource) :
    read settings d.toJson source = (.ok d, source) ∧
    (read settings d.toJson source).1.map toJson = .ok d.toJson ∧
    ∀ e : Document, e.Reachable → e.toJson = d.toJson → e = d := by
  have hread := read_toJson h settings source
  refine ⟨hread, by rw [hread]; rfl, fun e he heq => ?_⟩
  have hsame := read_toJson he settings source
  rw [heq, hread, Prod.mk.injEq, Except.ok.injEq] at hsame
  exact hsame.1.symm

/-- The size 16.0 beside another one under its second name, and a height that an edit has set to a
boolean. -/
theorem round_trip_revised_height :
    let settings : Settings := ⟨2024, "", "", ""⟩
    let size : Binary64 := ⟨0x4030000000000000⟩
    let v : Json := .obj [("blocks", .arr [
      .obj [("id", .str "p"), ("type", .str "paragraph"),
        ("content", .obj [("font_size", .arr []), ("fontSize", .float size)])],
      .obj [("id", .str "s"), ("type", .str "spacer"),
        ("content", .obj [("note", .null), ("height", .str "50%")])]])]
    let edit : Edit := .update (.str "s") (.obj [("height", .bool true)])
    let paragraph : Block :=
      ⟨"p", ⟨.paragraph "Your text here..." "#475569" (.float size), [("font_size", .arr [])]⟩⟩
    let d : Document := ⟨[paragraph, ⟨"s", ⟨.spacer (.text "50%"), [("note", .null)]⟩⟩], .standard⟩
    let e : Document := ⟨[paragraph, ⟨"s", ⟨.spacer (.int 1), [("note", .null)]⟩⟩], .standard⟩
    read settings v ⟨[], 0⟩ = (.ok d, ⟨[], 0⟩) ∧
      (edit.apply settings d ⟨[], 0⟩).1 = .ok (some e) ∧
      read settings e.toJson ⟨[], 0⟩ = (.ok e, ⟨[], 0⟩) := by
  intro settings size v edit paragraph d e
  have hread : read settings v ⟨[], 0⟩ = (.ok d, ⟨[], 0⟩) := by rfl
  have hedit : (edit.apply settings d ⟨[], 0⟩).1 = .ok (some e) := by rfl
  exact ⟨hread, hedit, (round_trip (.edit (.read hread) hedit) settings _).1⟩

end Document
end MailTemplate
