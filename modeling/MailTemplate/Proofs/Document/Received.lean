import MailTemplate.Html.Row
import MailTemplate.Json.Reader
import MailTemplate.Proofs.Document.Reachable
import MailTemplate.Proofs.Document.Rebuilding
import MailTemplate.Proofs.Json.Writable

/-!
# Documents that are received

The values of a document that is received have been read from texts. They can then be written, and so
each block has a row.

* `Record.writable_read`, `Attributes.writable_ofObject` and `writable_revise`: fields that are read
  from values that can be written;
* `Stored.Keeps.writable`: what is kept of a stored block;
* `Document.Received` and `Received.writable`: documents that are received, and edited since;
* `Content.isSome_row?_iff`: a content has a row if its values can be written.
-/

namespace MailTemplate

variable {settings : Settings} {source rest : IdSource}

/-! ### Fields -/

/-- A length is kept as it is, and all other fields are texts. -/
theorem FieldType.writable_toJson {type : FieldType} (htype : ∀ bounds, type ≠ .within bounds)
    {v : Json} (hv : v.Writable) {a : type.Carrier} (h : type.read v = .ok a) :
    (type.toJson a).Writable := by
  cases type with
  | text => exact Json.writable_str a
  | pixels =>
    cases v with
    | bool b =>
      cases h
      cases b <;> exact Json.writable_int_iff.mpr (by decide)
    | int n =>
      cases h
      exact hv
    | float x =>
      cases h
      exact Json.writable_float x
    | str s =>
      cases h
      exact Json.writable_str s
    | _ => contradiction
  | texts => exact Json.writable_texts a
  | within bounds => exact absurd rfl (htype bounds)

theorem Json.Object.writable_of_find? {o : Json.Object} (ho : ∀ m ∈ o, m.2.Writable)
    {field : FieldName} {v : Json} (h : (o.find? field).map (·.2) = some v) : v.Writable := by
  obtain ⟨m, hm, rfl⟩ := Option.map_eq_some_iff.mp h
  exact ho m (mem_of_find? hm)

theorem Record.writable_read {fields : List Field}
    (hfields : ∀ f ∈ fields, ∀ bounds, f.type ≠ .within bounds) {o : Json.Object}
    (ho : ∀ m ∈ o, m.2.Writable) {defaults record : Record fields}
    (hdefaults : ∀ m ∈ toObject fields defaults, m.2.Writable)
    (h : read fields defaults o = .ok record) : ∀ m ∈ toObject fields record, m.2.Writable := by
  induction fields with
  | nil => exact List.forall_mem_nil _
  | cons f fields ih =>
    obtain ⟨default, defaults⟩ := defaults
    obtain ⟨value, values⟩ := record
    obtain ⟨hf, hfields⟩ := List.forall_mem_cons.mp hfields
    obtain ⟨hdefault, hdefaults⟩ := List.forall_mem_cons.mp hdefaults
    obtain ⟨hvalue, hvalues⟩ := Checked.both_eq_ok.mp h
    refine List.forall_mem_cons.mpr ⟨?_, ih hfields hdefaults hvalues⟩
    unfold Json.Object.optional at hvalue
    split at hvalue
    · rename_i m hm
      have hm := ho _ (Json.Object.mem_of_find? hm)
      exact f.type.writable_toJson hf hm (Checked.under_eq_ok.mp hvalue)
    · cases hvalue
      exact hdefault

theorem Kind.type_ne_within (kind : Kind) {f : Field} (hf : f ∈ kind.fields) (bounds : Bounds) :
    f.type ≠ .within bounds := by
  cases kind <;> simp at hf <;> grind

/-! ### Attributes -/

/-- The fields of a content can be written. -/
def Content.Writable (content : Content) : Prop :=
  ∀ m ∈ Record.toObject content.kind.fields content.toRecord, m.2.Writable

theorem Content.writable_ofRecord {kind : Kind} {record : Record kind.fields} :
    (ofRecord kind record).Writable ↔
      ∀ m ∈ Record.toObject kind.fields record, m.2.Writable := by
  cases kind <;> exact Iff.rfl

/-- All members of attributes can be written. -/
def Attributes.Writable (a : Attributes) : Prop := ∀ m ∈ a.toObject, m.2.Writable

namespace Attributes

variable {a b : Attributes} {kind : Kind} {o : Json.Object}

theorem writable_iff : a.Writable ↔ a.content.Writable ∧ ∀ m ∈ a.extra, m.2.Writable :=
  List.forall_mem_append

theorem Writable.content (h : a.Writable) : a.content.Writable := (writable_iff.mp h).1

theorem writable_standard (settings : Settings) (kind : Kind) :
    (standard settings kind).Writable := by
  refine writable_iff.mpr ⟨Content.writable_ofRecord.mpr ?_, List.forall_mem_nil _⟩
  cases kind <;> simp [Kind.defaults, Record.toObject, FieldType.toJson, Pixels.toJson,
    Json.writable_int_iff, Json.writable_arr_iff] <;> decide

theorem writable_ofObject {defaults : Record kind.fields}
    (hdefaults : ∀ m ∈ Record.toObject kind.fields defaults, m.2.Writable)
    (ho : ∀ m ∈ o, m.2.Writable) (h : ofObject kind defaults o = .ok a) : a.Writable := by
  obtain ⟨record, hrecord, rfl⟩ := ofObject_eq_ok.mp h
  refine writable_iff.mpr ⟨Content.writable_ofRecord.mpr ?_, fun m hm => ?_⟩
  · exact Record.writable_read (fun _ => kind.type_ne_within) ho hdefaults hrecord
  · exact ho m (List.mem_of_mem_filter hm)

theorem writable_read {v : Json} (hv : v.Writable) (h : read settings kind v = .ok a) :
    a.Writable := by
  obtain ⟨o, ho, h⟩ := bind_eq_ok.mp h
  rw [Json.asModel_eq_ok.mp ho, Json.writable_obj_iff] at hv
  exact writable_ofObject
    (Content.writable_ofRecord.mp (writable_standard settings kind).content) hv h

theorem writable_revise (ha : a.Writable) (ho : ∀ m ∈ o, m.2.Writable)
    (h : a.revise o = .ok b) : b.Writable := by
  refine writable_ofObject ha.content (Json.Object.writable_merge ha ?_) h
  exact List.forall_mem_map.mpr ho

end Attributes

/-! ### Rows -/

/-- A content has a row unless one of its lengths is an integer without a text. -/
theorem Content.isSome_row?_iff (settings : Settings) {content : Content} :
    (content.row? settings).isSome = true ↔ content.Writable := by
  cases content <;>
    simp [row?, Writable, kind, toRecord, Record.toObject, FieldType.toJson, Pixels.isSome_css?]

/-! ### Blocks -/

theorem Block.writable_readTagged {v : Json} (hv : v.Writable) {block : Block}
    (h : readTagged settings v source = (.ok block, rest)) : block.attributes.Writable := by
  obtain ⟨kind, o, rfl, ⟨m, hm, hread⟩ | hstandard⟩ := attributes_of_readTagged h
  · exact Attributes.writable_read (Json.writable_obj_iff.mp hv m hm) hread
  · rw [hstandard]
    exact Attributes.writable_standard settings kind

namespace Stored

variable {o : Json.Object}

theorem writable_member (ho : ∀ m ∈ o, m.2.Writable) (name : String) :
    (member o name).Writable :=
  Json.writable_getD (fun _ hv => ho _ (Json.Object.mem_of_get? hv)) Json.writable_null

theorem writable_items {blocks : Json} (hblocks : blocks.Writable) {items : List Json}
    (h : Stored.items blocks = .ok items) : ∀ v ∈ items, v.Writable := by
  unfold Stored.items at h
  split at h
  · cases h
    exact List.forall_mem_nil _
  · split at h
    · cases h
      exact Json.writable_arr_iff.mp hblocks
    · cases h
      exact List.forall_mem_map.mpr fun c _ => Json.writable_str _
    · cases h
      exact List.forall_mem_map.mpr fun m _ => Json.writable_str m.1
    · contradiction

/-- Some members of a stored content are kept, and none is changed. -/
theorem writable_keptContent {content : Json} (hcontent : content.Writable) (kind : Kind)
    (id : Json) : ∀ m ∈ (keptContent settings kind id content).1, m.2.Writable := by
  cases content with
  | obj members =>
    intro m hm
    rw [keptContent, keptMembers_eq_filter] at hm
    exact Json.writable_obj_iff.mp hcontent m (List.mem_of_mem_filter hm)
  | _ => exact List.forall_mem_nil _

theorem Keeps.writable {block : Block} (h : Keeps settings o block)
    (ho : ∀ m ∈ o, m.2.Writable) : block.attributes.Writable := by
  refine Attributes.writable_read (Json.writable_obj_iff.mpr ?_) h.attributes
  have hcontent : (contentOf o).Writable :=
    Json.writable_getD (fun _ hv => Json.Object.writable_of_find? ho hv) Json.writable_null
  exact writable_keptContent hcontent block.kind (.str block.id)

end Stored

/-! ### Documents -/

namespace Document

variable {d e : Document}

/-- A document that has been read or loaded from a value that has been received, or begun anew, and
edited since. New values for a block have been received as well. -/
inductive Received : Document → Prop
  | read {settings : Settings} {v : Json} {source rest : IdSource} {d : Document}
      (hv : v.Received) (h : Document.read settings v source = (.ok d, rest)) : Received d
  | load {settings : Settings} {v : Json} {source : IdSource} {d : Document}
      (hv : v.Received) (h : (Document.load settings v source).result = .ok d) : Received d
  | starter {settings : Settings} {year : Json} {theme : Theme} {source rest : IdSource}
      {d : Document} (h : Document.starter settings year theme source = (.ok d, rest)) : Received d
  | edit {settings : Settings} {edit : Edit} {source : IdSource} {d e : Document} (hd : Received d)
      (hchanges : ∀ id changes, edit = .update id changes → changes.Received)
      (h : (edit.apply settings d source).1 = .ok (some e)) : Received e

theorem writable_read {v : Json} (hv : v.Writable)
    (h : read settings v source = (.ok d, rest)) :
    ∀ block ∈ d.blocks, block.attributes.Writable := by
  intro block hblock
  obtain ⟨o, rfl, h⟩ := read_eq_ok.mp h
  obtain ⟨items, hitems, w, hw, _, _, hread⟩ := exists_readTagged_of_ofObject h block hblock
  have harr := Json.writable_obj_iff.mp hv _ (Json.Object.mem_of_get? hitems)
  exact Block.writable_readTagged (Json.writable_arr_iff.mp harr w hw) hread

theorem writable_load {v : Json} (hv : v.Writable) (h : (load settings v source).result = .ok d) :
    ∀ block ∈ d.blocks, block.attributes.Writable := by
  intro block hblock
  obtain ⟨o, items, warnings, rest, rfl, hitems, hrebuilt, -⟩ := Stored.exists_rebuilt_of_load h
  obtain ⟨stored, hstored, hkeeps⟩ := hrebuilt.exists_keeps block hblock
  have ho := Json.writable_obj_iff.mp hv
  have hall := Stored.writable_items (Stored.writable_member ho "blocks") hitems
  exact hkeeps.writable (Json.writable_obj_iff.mp (hall _ hstored))

theorem writable_starterContents (settings : Settings) (year : String) :
    ∀ content ∈ starterContents settings year, content.Writable := by
  have hsize : (Pixels.int 16).css?.isSome = true := by decide
  have hrows : ∀ content ∈ starterContents settings year,
      (content.row? settings).isSome = true := by
    simp [starterContents, Content.row?, hsize]
  exact fun content hcontent => (Content.isSome_row?_iff settings).mp (hrows content hcontent)

/-- All values in the blocks of a document that is received can be written. -/
theorem Received.writable (h : d.Received) : ∀ block ∈ d.blocks, block.attributes.Writable := by
  induction h with
  | read hv h => exact writable_read hv.writable h
  | load hv h => exact writable_load hv.writable h
  | starter h =>
    intro block hblock
    obtain ⟨year, hblocks, -⟩ := drawBlocks_of_starter h
    rw [hblocks] at hblock
    obtain ⟨content, hcontent, ids, rfl⟩ := exists_draw_of_mem_drawBlocks block hblock
    exact Attributes.writable_iff.mpr
      ⟨writable_starterContents _ year content hcontent, List.forall_mem_nil _⟩
  | @edit settings _ _ _ _ _ hchanges h ih =>
    refine forall_attributes_apply (Attributes.writable_standard settings) ?_ ih h
    intro id changes hedit a b ha hrevise
    have hchanges := Json.writable_obj_iff.mp (hchanges id _ hedit).writable
    exact Attributes.writable_revise ha hchanges hrevise

end Document
end MailTemplate
