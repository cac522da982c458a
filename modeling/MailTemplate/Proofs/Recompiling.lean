import MailTemplate.Compiled
import MailTemplate.Proofs.Document.RoundTrip
import MailTemplate.Proofs.Text.Trimmed

/-!
# Records are built again from their parts

A stored record holds metadata, a document and what has been made of the document. The first two are
read back from it, and make the same record again.

* `Json.asTrimmedText_trimmed`, `asChoice_typeName` and `asChoice_categoryName`: the values of
  metadata;
* `Metadata.ofObject_toObject` and `read_toObject`: metadata that has been read is read back as it
  was;
* `Json.Object.pick`, `TemplateRecord.pick_metadata` and `pick_document`: the parts of a record;
* `TemplateRecord.rebuild` and `record_rebuilds`: the record that is built again from them;
* `Document.record_congr` and `rebuild_later`: what other settings change in it.
-/

namespace MailTemplate

open Placeholder

/-! ### The values of metadata -/

namespace Json

/-- A text is trimmed, and something is left of it. -/
theorem asTrimmedText_eq_ok {v : Json} {s : String} :
    v.asTrimmedText = .ok s ↔ ∃ t, v = .str t ∧ Text.trim Text.isBlank t = s ∧ s ≠ "" := by
  have hbind : v.asTrimmedText = .ok s ↔ ∃ t, v.asText = .ok t ∧
      (if Text.trim Text.isBlank t = "" then Checked.fail .emptyText
        else .ok (Text.trim Text.isBlank t)) = .ok s := bind_eq_ok
  rw [hbind]
  refine exists_congr fun t => and_congr ?_ ?_
  · cases v <;> simp [asText]
  · by_cases h : Text.trim Text.isBlank t = ""
    · rw [if_pos h, h]
      exact iff_of_false Checked.fail_ne_ok fun hs => hs.2 hs.1.symm
    · rw [if_neg h, Except.ok.injEq]
      exact ⟨fun hs => ⟨hs, hs ▸ h⟩, And.left⟩

/-- A text that has been trimmed is not trimmed again. -/
theorem asTrimmedText_trimmed {v : Json} {s : String} (h : v.asTrimmedText = .ok s) :
    (Json.str s).asTrimmedText = .ok s := by
  obtain ⟨t, -, rfl, hne⟩ := asTrimmedText_eq_ok.mp h
  exact asTrimmedText_eq_ok.mpr ⟨_, rfl, Text.trim_trim _ t, hne⟩

theorem asChoice_typeName (type : TemplateType) :
    asChoice TemplateType.name TemplateType.all (.str type.name) = .ok type := by
  cases type <;> rfl

theorem asChoice_categoryName (category : TemplateCategory) :
    asChoice TemplateCategory.name TemplateCategory.all (.str category.name) = .ok category := by
  cases category <;> rfl

end Json

/-- The value of a field that must be there is one that has been read. -/
theorem Json.Object.exists_of_required {α : Type} {o : Json.Object} {field : FieldName}
    {read : Json → Checked α} {a : α} (h : o.required field read = .ok a) :
    ∃ v, read v = .ok a := by
  unfold required at h
  split at h
  · exact ⟨_, Checked.under_eq_ok.mp h⟩
  · exact absurd (Checked.under_eq_ok.mp h) Checked.fail_ne_ok

namespace Metadata

variable {m : Metadata}

/-- Metadata that some value describes. -/
def IsRead (m : Metadata) : Prop := ∃ v, read v = .ok m

/-- The texts of metadata that has been read are trimmed. -/
theorem IsRead.asTrimmedText (h : m.IsRead) :
    (Json.str m.name).asTrimmedText = .ok m.name ∧
      (Json.str m.subject).asTrimmedText = .ok m.subject := by
  obtain ⟨v, h⟩ := h
  obtain ⟨o, -, h⟩ := bind_eq_ok.mp h
  obtain ⟨parts, hparts, rfl⟩ := map_eq_ok.mp h
  rw [Checked.both_eq_ok, Checked.both_eq_ok] at hparts
  obtain ⟨_, hname⟩ := Json.Object.exists_of_required hparts.1
  obtain ⟨_, hsubject⟩ := Json.Object.exists_of_required hparts.2.1
  exact ⟨Json.asTrimmedText_trimmed hname, Json.asTrimmedText_trimmed hsubject⟩

/-- Metadata is read back from its members as it was. -/
theorem ofObject_toObject (h : m.IsRead) : ofObject m.toObject = .ok m := by
  obtain ⟨hname, hsubject⟩ := h.asTrimmedText
  refine map_eq_ok.mpr
    ⟨(m.name, m.subject, m.type, m.category, m.isActive, m.isDefault), ?_, rfl⟩
  simp only [Checked.both_eq_ok]
  refine ⟨?_, ?_, ?_, ?_, rfl, rfl⟩
  · exact Checked.under_eq_ok.mpr hname
  · exact Checked.under_eq_ok.mpr hsubject
  · exact Checked.under_eq_ok.mpr (Json.asChoice_typeName m.type)
  · exact Checked.under_eq_ok.mpr (Json.asChoice_categoryName m.category)

theorem read_toObject (h : m.IsRead) : read (.obj m.toObject) = .ok m :=
  ofObject_toObject h

end Metadata

/-! ### The parts of a record -/

/-- The members of an object under some names. -/
def Json.Object.pick (names : List String) (o : Json.Object) : Json.Object :=
  names.filterMap fun name => (o.get? name).map fun v => (name, v)

namespace TemplateRecord

/-- The members of a record that are metadata. -/
def metadataNames : List String := ["name", "subject", "type", "category", "isActive", "isDefault"]

/-- The members of a record that are its document. -/
def documentNames : List String := ["blocks", "designSettings"]

theorem pick_metadata (r : TemplateRecord) :
    r.toObject.pick metadataNames = r.metadata.toObject := by
  rfl

theorem pick_document (r : TemplateRecord) :
    r.toObject.pick documentNames = r.compiled.document.toObject := by
  rfl

/-- The record that the metadata and the document in a written one make. -/
def rebuild (settings : Settings) (o : Json.Object) (source : IdSource) :
    Checked TemplateRecord × IdSource :=
  let (document, source) := Document.read settings (.obj (o.pick documentNames)) source
  (((Metadata.read (.obj (o.pick metadataNames))).both document).map fun (metadata, d) =>
    d.record settings metadata, source)

variable {d : Document} {metadata : Metadata}

theorem read_pick_document (hd : d.Reachable) (settings later : Settings) (metadata : Metadata)
    (source : IdSource) :
    Document.read later (.obj ((d.record settings metadata).toObject.pick documentNames)) source =
      (.ok d, source) := by
  rw [pick_document]
  exact Document.read_toJson hd later source

theorem read_pick_metadata (hmetadata : metadata.IsRead) (settings : Settings) (d : Document) :
    Metadata.read (.obj ((d.record settings metadata).toObject.pick metadataNames)) =
      .ok metadata := by
  rw [pick_metadata]
  exact Metadata.read_toObject hmetadata

/-- The settings in force count, not those under which the record was built first. -/
theorem rebuild_record (hd : d.Reachable) (hmetadata : metadata.IsRead) (settings later : Settings)
    (source : IdSource) :
    rebuild later (d.record settings metadata).toObject source =
      (.ok (d.record later metadata), source) := by
  rw [rebuild, read_pick_document hd, read_pick_metadata hmetadata]
  rfl

end TemplateRecord

/-! ### Other settings -/

section Settings

variable {settings later : Settings} (h : later.placeholderImage = settings.placeholderImage)
include h

/-- Of the settings, a row shows the image that stands for a missing one only. -/
theorem Content.row?_congr (content : Content) : content.row? later = content.row? settings := by
  cases content with
  | image url alt width => rw [row?, row?, h]
  | _ => rfl

theorem Document.record_congr (d : Document) (metadata : Metadata) :
    d.record later metadata = d.record settings metadata := by
  simp only [record, compile, render, html, rows, Block.html, Content.row?_congr h]

end Settings

namespace Document

variable {d : Document} {metadata : Metadata}

/-- A record of metadata that has been read and of a document in use is built again from its parts:
the document and the metadata are read back from it as they were, without a draw, and the record
that they make is the same, with its HTML, its plain text and its variables. -/
theorem record_rebuilds (hd : d.Reachable) (hmetadata : metadata.IsRead) (settings : Settings)
    (source : IdSource) :
    let record := d.record settings metadata
    let o := record.toObject
    read settings (.obj (o.pick TemplateRecord.documentNames)) source = (.ok d, source) ∧
    Metadata.read (.obj (o.pick TemplateRecord.metadataNames)) = .ok metadata ∧
    TemplateRecord.rebuild settings o source = (.ok record, source) := by
  intro record o
  refine ⟨?_, ?_, ?_⟩
  · exact TemplateRecord.read_pick_document hd settings settings metadata source
  · exact TemplateRecord.read_pick_metadata hmetadata settings d
  · exact TemplateRecord.rebuild_record hd hmetadata settings settings source

/-- Blanks around the name and the subject, the latter with a placeholder, and a member that no
field of a header has. -/
theorem record_rebuilds_trimmed :
    let settings : Settings := ⟨2024, "", "", ""⟩
    let v : Json := .obj [("blocks", .arr [
      .obj [("id", .str "h"), ("type", .str "header"),
        ("content", .obj [("note", .null), ("title", .str (written "title"))])]])]
    let w : Json := .obj [("subject", .str ("\u3000Hi " ++ written "name" ++ "\n")),
      ("name", .str " n "), ("is_active", .str "no"), ("type", .str "welcome")]
    let d : Document := ⟨[⟨"h", ⟨.header (written "title") "", [("note", .null)]⟩⟩], .standard⟩
    let metadata : Metadata := ⟨"n", "Hi " ++ written "name", .welcome, .custom, false, false⟩
    let record := d.record settings metadata
    read settings v ⟨[], 0⟩ = (.ok d, ⟨[], 0⟩) ∧ Metadata.read w = .ok metadata ∧
      TemplateRecord.rebuild settings record.toObject ⟨[], 0⟩ = (.ok record, ⟨[], 0⟩) := by
  intro settings v w d metadata record
  have hd : read settings v ⟨[], 0⟩ = (.ok d, ⟨[], 0⟩) := by rfl
  have hmetadata : Metadata.read w = .ok metadata := by rfl
  exact ⟨hd, hmetadata, (record_rebuilds (.read hd) ⟨w, hmetadata⟩ settings _).2.2⟩

/-- A record that was built in another year, or for another company, is built again as it was. -/
theorem rebuild_later (hd : d.Reachable) (hmetadata : metadata.IsRead) {settings later : Settings}
    (h : later.placeholderImage = settings.placeholderImage) (source : IdSource) :
    TemplateRecord.rebuild later (d.record settings metadata).toObject source =
      (.ok (d.record settings metadata), source) := by
  rw [TemplateRecord.rebuild_record hd hmetadata, record_congr h]

end Document
end MailTemplate
