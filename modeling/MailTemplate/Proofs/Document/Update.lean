import MailTemplate.Proofs.Document.RoundTrip

/-!
# What an update changes

An update replaces the declared fields that it names and puts its other members among the undeclared
ones. Everything else is as it was.

* `Attributes.revise_eq_ok`: attributes that are revised, and `get?_merge_undeclared`: what then
  stands beside the declared fields;
* `Document.update_of_getElem?`: the update of the block at an index;
* `Document.update_revises`: when an update fails, and what it makes of the document otherwise.
-/

namespace MailTemplate

theorem Kind.unambiguous (kind : Kind) : Record.Unambiguous kind.fields :=
  fun _ hf _ hg _ => kind.field_unique hf hg

namespace Json.Object

theorem last?_filter (keep : String → Bool) (o : Object) (name : String) :
    last? { wire := name } (o.filter (keep ·.1)) =
      if keep name then o.last? { wire := name } else none := by
  induction o with
  | nil => simp [last?]
  | cons m o ih =>
    obtain ⟨n, v⟩ := m
    by_cases hname : n = name
    · subst hname
      cases h : keep n <;> simp [last?, h, ih]
    · have hskip (o : Object) :
          last? { wire := name } ((n, v) :: o) = o.last? { wire := name } := by
        simp [last?, hname]
      rw [hskip, ← ih]
      cases h : keep n <;> simp [h, hskip]

end Json.Object

/-- Beside a record that is revised, a name that denotes no field has the last value that it is
given, and any other one has the value that it had. -/
theorem Record.get?_merge_undeclared (fields : List Field) (extra changes : Json.Object)
    (name : String) :
    (extra.merge (undeclared fields changes)).get? name =
      if isUndeclared fields name then (changes.last? { wire := name }).or (extra.get? name)
      else extra.get? name := by
  rw [Json.Object.get?_merge, undeclared, Json.Object.last?_filter]
  cases isUndeclared fields name <;> simp

namespace Attributes

variable {a b : Attributes} {changes : Json.Object}

theorem revise_eq_ok (h : a.IsRead) :
    a.revise changes = .ok b ↔ ∃ record,
      Record.Revised changes a.content.kind.fields a.content.toRecord record ∧
      b = ⟨.ofRecord a.content.kind record,
        a.extra.merge (Record.undeclared a.content.kind.fields changes)⟩ := by
  have hunambiguous := a.content.kind.unambiguous
  have hunused := Record.unused_merge_toObject hunambiguous changes a.content.toRecord
    fun m hm f hf => h.ne_wire hm hf
  have hread (record : Record a.content.kind.fields) :=
    Record.read_merge_toObject a.content.kind.nodup_wires
      (fun f => Record.last?_toWire hunambiguous changes) a.content.toRecord
      a.content.toRecord record [] (fun _ _ => List.not_mem_nil) a.extra
  rw [revise, ofObject_eq_ok]
  refine exists_congr fun record => and_congr (hread record) ?_
  rw [toObject, hunused]

theorem isOk_revise (h : a.IsRead) (changes : Json.Object) :
    (a.revise changes).isOk = true ↔
      ∀ f ∈ a.content.kind.fields, ∀ v, changes.last? f.name = some v →
        (f.type.read v).isOk = true := by
  rw [isOk_iff, ← Record.exists_revised a.content.toRecord]
  simp only [revise_eq_ok h]
  constructor
  · rintro ⟨_, record, hrecord, -⟩
    exact ⟨record, hrecord⟩
  · rintro ⟨record, hrecord⟩
    exact ⟨_, record, hrecord, rfl⟩

end Attributes

namespace Document

variable {d : Document} {i : Nat} {block : Block}

/-- The block at an index is found under its id, if the ids tell the blocks apart. -/
theorem update_of_getElem? (h : d.Sound) (hblock : d.blocks[i]? = some block)
    (changes : Json.Object) :
    d.update (.str block.id) (.obj changes) =
      ((block.attributes.revise changes).orInvalid block.kind.attributesModel).map
        fun attributes => { d with blocks := d.blocks.set i { block with attributes } } := by
  have hindex : (Json.str block.id).text?.bind d.indexOf? = some i := h.indexOf?_id hblock
  simp only [update, hindex, hblock]

/-- An update of a block fails exactly if the last value that it gives for some declared field,
under whichever of its names, is not valid. Otherwise the fields that it names have these values, the
other fields are as they were, and its members under other names have been put among the undeclared
ones, of which the others are as they were. Neither the id, the kind and the place of the block nor
the other blocks or the theme change. -/
theorem update_revises (h : d.Reachable) (hblock : d.blocks[i]? = some block)
    (changes : Json.Object) :
    let result := d.update (.str block.id) (.obj changes)
    let fails := ∃ issues, result = .error (.invalid block.kind.attributesModel issues)
    (fails ↔ ∃ f ∈ block.kind.fields, ∃ v, changes.last? f.name = some v ∧
      (f.type.read v).isOk = false) ∧
    (fails ∨ ∃ record extra,
      result = .ok { d with
        blocks := d.blocks.set i ⟨block.id, ⟨.ofRecord block.kind record, extra⟩⟩ } ∧
      Record.Revised changes block.kind.fields block.attributes.content.toRecord record ∧
      extra = block.attributes.extra.merge (Record.undeclared block.kind.fields changes) ∧
      ∀ name, extra.get? name =
        if Record.isUndeclared block.kind.fields name then
          (changes.last? { wire := name }).or (block.attributes.extra.get? name)
        else block.attributes.extra.get? name) := by
  intro result fails
  have hread := h.isRead block (List.mem_of_getElem? hblock)
  have hisOk := Attributes.isOk_revise hread changes
  have hresult := update_of_getElem? h.sound hblock changes
  cases hrevise : block.attributes.revise changes with
  | ok a =>
    obtain ⟨record, hrevised, rfl⟩ := (Attributes.revise_eq_ok hread).mp hrevise
    rw [hrevise] at hresult hisOk
    refine ⟨iff_of_false ?_ ?_, .inr ⟨record, _, hresult, hrevised, rfl, ?_⟩⟩
    · rintro ⟨issues, hissues⟩
      cases hresult.symm.trans hissues
    · rintro ⟨f, hf, v, hv, hinvalid⟩
      exact absurd (hisOk.mp rfl f hf v hv) (by simp [hinvalid])
    · exact Record.get?_merge_undeclared block.kind.fields block.attributes.extra changes
  | error issues =>
    rw [hrevise] at hresult hisOk
    have hfails : fails := ⟨issues, hresult⟩
    have hinvalid := mt hisOk.mpr Bool.false_ne_true
    exact ⟨iff_of_true hfails (by simpa [Block.kind] using hinvalid), .inl hfails⟩

/-- Of two sizes under different names the last one counts, here a boolean after a null, so that the
same changes fail the other way round. The size that stands among the undeclared members is not
touched. -/
theorem update_revises_size :
    let settings : Settings := ⟨2024, "", "", ""⟩
    let v : Json := .obj [("blocks", .arr [.obj [("id", .str "p"), ("type", .str "paragraph"),
      ("content", .obj [("font_size", .arr []), ("fontSize", .int 18), ("note", .null)])]])]
    let block : Block := ⟨"p", ⟨.paragraph "Your text here..." "#475569" (.int 18),
      [("font_size", .arr []), ("note", .null)]⟩⟩
    let d : Document := ⟨[block], .standard⟩
    let changes : Json.Object :=
      [("fontSize", .null), ("note", .arr [.int 1]), ("font_size", .bool true), ("tag", .str "x")]
    read settings v ⟨[], 0⟩ = (.ok d, ⟨[], 0⟩) ∧ d.blocks[0]? = some block ∧
      d.update (.str "p") (.obj changes) = .ok ⟨[⟨"p", ⟨.paragraph "Your text here..." "#475569"
        (.int 1), [("font_size", .arr []), ("note", .arr [.int 1]), ("tag", .str "x")]⟩⟩],
        .standard⟩ ∧
      ∃ issues, d.update (.str "p") (.obj changes.reverse) =
        .error (.invalid "ParagraphAttributes" issues) := by
  intro settings v block d changes
  have hread : read settings v ⟨[], 0⟩ = (.ok d, ⟨[], 0⟩) := by rfl
  have hblock : d.blocks[0]? = some block := rfl
  have hrevises := update_revises (.read hread) hblock
  refine ⟨hread, hblock, ?_, (hrevises changes.reverse).1.mpr ?_⟩
  · rcases (hrevises changes).2 with ⟨issues, hissues⟩ | ⟨record, extra, hresult, hrevised, rfl, -⟩
    · cases hissues
    · obtain ⟨text, color, size, ⟨⟩⟩ := record
      obtain ⟨htext, hcolor, hsize, -⟩ := hrevised
      obtain rfl : text = "Your text here..." := htext
      obtain rfl : color = "#475569" := hcolor
      obtain rfl : Pixels.int 1 = size := Except.ok.inj hsize
      exact hresult
  · have hfield : ⟨⟨"fontSize", "font_size"⟩, .pixels⟩ ∈ block.kind.fields := by
      simp [Block.kind, Content.kind, block]
    exact ⟨_, hfield, .null, rfl, rfl⟩

end Document
end MailTemplate
