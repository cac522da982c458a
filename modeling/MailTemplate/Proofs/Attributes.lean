import Mathlib.Data.List.Basic
import MailTemplate.Attributes
import MailTemplate.Proofs.Checked

/-!
# Attributes of fewer members

A record looks at one member for each of its fields. Without some of the other members it is read in
the same way, and its unused members are those that are left.

* `Json.Object.find?_filter`: the member that holds a field, among fewer members;
* `Record.isOk_read`: whether a record can be read, field by field;
* `Record.read_filter`, `Record.unused_filter` and `Attributes.ofObject_filter`: records and
  attributes of fewer members;
* `Record.ne_wire_of_mem_unused`: no unused member has the name of a field on the wire;
* `Kind.field_unique` and `Kind.field_other`: the names of the fields of a kind.
-/

namespace MailTemplate

/-! ### Members -/

namespace Json.Object

variable {keep : String × Json → Bool} {o : Object} {name : String} {field : FieldName}

theorem get?_filter (h : ∀ v, o.get? name = some v → keep (name, v) = true) :
    get? (o.filter keep) name = o.get? name := by
  induction o with
  | nil => rfl
  | cons m o ih =>
    obtain ⟨n, v⟩ := m
    by_cases hname : n = name
    · subst hname
      have hkeep := h v (by rw [get?_cons, if_pos rfl])
      rw [List.filter_cons_of_pos hkeep, get?_cons, get?_cons, if_pos rfl, if_pos rfl]
    · rw [get?_cons, if_neg hname] at h ⊢
      by_cases hkeep : keep (n, v) = true
      · rw [List.filter_cons_of_pos hkeep, get?_cons, if_neg hname, ih h]
      · rw [List.filter_cons_of_neg hkeep, ih h]

theorem find?_filter (h : ∀ m, o.find? field = some m → keep m = true) :
    find? (o.filter keep) field = o.find? field := by
  unfold find? at h ⊢
  cases hwire : o.get? field.wire with
  | some v =>
    rw [hwire] at h
    rw [get?_filter (by rw [hwire]; rintro _ ⟨⟩; exact h _ rfl), hwire]
  | none =>
    rw [hwire] at h
    rw [get?_filter (by rw [hwire]; exact fun _ hv => (nomatch hv)), hwire, get?_filter]
    intro v hv
    exact h (field.other, v) (by rw [hv]; rfl)

theorem find?_singleton (name : String) (value : Json) (field : FieldName) :
    find? [(name, value)] field =
      if name = field.wire ∨ name = field.other then some (name, value) else none := by
  simp only [find?, get?_cons, get?_nil]
  by_cases hwire : name = field.wire
  · simp [hwire]
  · by_cases hother : name = field.other
    · rw [if_neg hwire, if_pos hother, if_pos (.inr hother), hother]
      rfl
    · simp [hwire, hother]

/-- A field is found under one of its names. -/
theorem name_of_find? {m : String × Json} (h : o.find? field = some m) :
    m.1 = field.wire ∨ m.1 = field.other := by
  unfold find? at h
  split at h
  · cases h
    exact .inl rfl
  · obtain ⟨v, -, rfl⟩ := Option.map_eq_some_iff.mp h
    exact .inr rfl

theorem mem_of_get? {v : Json} (h : o.get? name = some v) : (name, v) ∈ o := by
  induction o with
  | nil => exact nomatch h
  | cons m o ih =>
    obtain ⟨n, w⟩ := m
    rw [get?_cons] at h
    split at h
    · rename_i hname
      rw [← hname, ← Option.some.inj h]
      exact List.mem_cons_self
    · exact List.mem_cons_of_mem _ (ih h)

theorem mem_of_find? {m : String × Json} (h : o.find? field = some m) : m ∈ o := by
  unfold find? at h
  split at h
  · rename_i v hv
    rw [← Option.some.inj h]
    exact mem_of_get? hv
  · obtain ⟨v, hv, rfl⟩ := Option.map_eq_some_iff.mp h
    exact mem_of_get? hv

theorem isSome_get?_of_mem {m : String × Json} (hm : m ∈ o) : (o.get? m.1).isSome = true := by
  rw [get?, List.lookup_isSome_iff]
  exact ⟨m, hm, by simp⟩

/-- A member with the name on the wire is enough for a field to be found under that name. -/
theorem find?_wire_of_mem {m : String × Json} (hm : m ∈ o) (h : m.1 = field.wire) :
    ∃ v, o.find? field = some (field.wire, v) := by
  have hsome : (o.get? field.wire).isSome = true := h ▸ isSome_get?_of_mem hm
  obtain ⟨v, hv⟩ := Option.isSome_iff_exists.mp hsome
  exact ⟨v, by rw [find?, hv]⟩

end Json.Object

/-! ### Records -/

namespace Record

variable {keep : String × Json → Bool} {fields : List Field} {o : Json.Object}

/-- A record is read if the members that hold its fields are. -/
theorem isOk_read {values : Record fields} :
    (read fields values o).isOk = true ↔
      ∀ f ∈ fields, ∀ m, o.find? f.name = some m → (f.type.read m.2).isOk = true := by
  induction fields with
  | nil => simp [read, Except.isOk, Except.toBool]
  | cons f fields ih =>
    obtain ⟨value, values⟩ := values
    rw [List.forall_mem_cons, ← @ih values, read, Json.Object.optional]
    cases o.find? f.name with
    | none =>
      have hdefault : Except.isOk (.ok value : Checked f.type.Carrier) = true := rfl
      simp [hdefault]
    | some m => simp

section Filter

variable (h : ∀ f ∈ fields, ∀ m, o.find? f.name = some m → keep m = true)
include h

theorem read_filter (values : Record fields) :
    read fields values (o.filter keep) = read fields values o := by
  induction fields with
  | nil => rfl
  | cons f fields ih =>
    obtain ⟨value, values⟩ := values
    rw [List.forall_mem_cons] at h
    rw [read, read, ih h.2, Json.Object.optional, Json.Object.optional,
      Json.Object.find?_filter h.1]

theorem usedNames_filter : usedNames fields (o.filter keep) = usedNames fields o := by
  refine List.filterMap_congr fun f hf => ?_
  rw [Json.Object.find?_filter (h f hf)]

theorem unused_filter : unused fields (o.filter keep) = (unused fields o).filter keep := by
  unfold unused
  rw [usedNames_filter h, List.filter_filter, List.filter_filter]
  exact List.filter_congr fun m _ => Bool.and_comm _ _

end Filter

/-- A member with the name of a field on the wire holds that field. -/
theorem ne_wire_of_mem_unused {m : String × Json} (hm : m ∈ unused fields o) {f : Field}
    (hf : f ∈ fields) : m.1 ≠ f.name.wire := by
  intro hname
  obtain ⟨hmem, hunused⟩ := List.mem_filter.mp hm
  obtain ⟨v, hv⟩ := Json.Object.find?_wire_of_mem hmem hname
  have hused : m.1 ∈ usedNames fields o :=
    List.mem_filterMap.mpr ⟨f, hf, by rw [hv, hname]; rfl⟩
  simp [hused] at hunused

end Record

namespace Attributes

variable {kind : Kind} {defaults : Record kind.fields} {o : Json.Object} {a : Attributes}

theorem ofObject_eq_ok :
    ofObject kind defaults o = .ok a ↔
      ∃ record, Record.read kind.fields defaults o = .ok record ∧
        a = ⟨.ofRecord kind record, Record.unused kind.fields o⟩ := by
  rw [ofObject, map_eq_ok]
  simp only [eq_comm]

/-- Without members, attributes have their defaults. -/
theorem ofObject_nil (kind : Kind) (defaults : Record kind.fields) :
    ofObject kind defaults [] = .ok ⟨.ofRecord kind defaults, []⟩ := by
  cases kind <;> rfl

/-- Attributes do not miss a member that holds no field. -/
theorem ofObject_filter {keep : String × Json → Bool}
    (hkeep : ∀ f ∈ kind.fields, ∀ m, o.find? f.name = some m → keep m = true)
    (h : ofObject kind defaults o = .ok a) :
    ofObject kind defaults (o.filter keep) = .ok { a with extra := a.extra.filter keep } := by
  obtain ⟨record, hrecord, rfl⟩ := ofObject_eq_ok.mp h
  refine ofObject_eq_ok.mpr ⟨record, ?_, ?_⟩
  · rw [Record.read_filter hkeep, hrecord]
  · rw [Record.unused_filter hkeep]

end Attributes

/-! ### The fields of the kinds -/

/-- No type of field has null among its values. -/
theorem FieldType.isOk_read_null (type : FieldType) : (type.read .null).isOk = false := by
  cases type <;> rfl

namespace Kind

/-- A name denotes one field of a kind at most. -/
theorem field_unique (kind : Kind) {f g : Field} (hf : f ∈ kind.fields) (hg : g ∈ kind.fields)
    {name : String} (hfn : name = f.name.wire ∨ name = f.name.other)
    (hgn : name = g.name.wire ∨ name = g.name.other) : f = g := by
  cases kind <;> simp at hf hg <;> grind

/-- A single field of all kinds has two names. -/
theorem field_other (kind : Kind) {f : Field} (hf : f ∈ kind.fields)
    (h : f.name.other ≠ f.name.wire) :
    kind = .paragraph ∧ f = ⟨⟨"fontSize", "font_size"⟩, .pixels⟩ := by
  cases kind <;> simp at hf <;> grind

end Kind
end MailTemplate
