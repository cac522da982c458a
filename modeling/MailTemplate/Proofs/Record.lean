import Mathlib.Data.List.Basic
import MailTemplate.Proofs.Attributes

/-!
# Records that are written, revised and read back

A record is written as an object. Members that are put into that object replace fields: the last
member for a field counts, under whichever of its names.

* `FieldName.Denotes` and `Json.Object.last?`: the names of a field, and the last value under them;
* `Json.Object.get?_merge` and `filter_merge`: lookup in an object into which another one is put;
* `FieldType.read_toJson`: values of declared fields;
* `Record.Revised` and `read_merge_toObject`: what is read of a written record into which other
  members are put;
* `Record.read_toObject` and `unused_toObject`: what is read of one that is left as it is;
* `Record.Unambiguous`, `last?_toWire` and `unused_merge_toObject`: tables in which a name denotes
  one field at most, and changes under either name.
-/

namespace MailTemplate

/-! ### Names -/

/-- Whether a name is one of the two names of a field. -/
def FieldName.Denotes (field : FieldName) (name : String) : Prop :=
  name = field.wire ∨ name = field.other

instance (field : FieldName) (name : String) : Decidable (field.Denotes name) :=
  inferInstanceAs (Decidable (name = field.wire ∨ name = field.other))

theorem FieldName.denotes_wire (field : FieldName) : field.Denotes field.wire := .inl rfl

/-- A field of one name is denoted by that name alone. -/
@[simp] theorem FieldName.denotes_single {name other : String} :
    FieldName.Denotes { wire := name } other ↔ other = name := or_self_iff

/-! ### Objects -/

namespace Json.Object

/-- The value of the last member that is named like a field, in either way. -/
def last? (field : FieldName) : Object → Option Json
  | [] => none
  | (name, value) :: o =>
      (last? field o).or (if field.Denotes name then some value else none)

theorem get?_append_of_not_mem {o : Object} {name : String} (h : name ∉ o.names) (p : Object) :
    get? (o ++ p) name = p.get? name := by
  induction o with
  | nil => rfl
  | cons m o ih =>
    obtain ⟨n, v⟩ := m
    simp only [names, List.map_cons, List.mem_cons, not_or] at h
    rw [List.cons_append, get?_cons, if_neg (Ne.symm h.1), ih h.2]

theorem merge_cons (o p : Object) (name : String) (value : Json) :
    o.merge ((name, value) :: p) = (o.put name value).merge p := rfl

/-- Of the members that are put into an object, the last one of a name counts. -/
theorem get?_merge (o p : Object) (name : String) :
    (o.merge p).get? name = (p.last? { wire := name }).or (o.get? name) := by
  induction p generalizing o with
  | nil => rfl
  | cons m p ih =>
    obtain ⟨n, v⟩ := m
    rw [merge_cons, ih, get?_put, last?, Option.or_assoc]
    by_cases h : n = name <;> simp [h]

section Filter

variable (keep : String → Bool)

theorem filter_put (o : Object) (name : String) (value : Json) :
    (o.put name value).filter (keep ·.1) =
      if keep name then Json.Object.put (o.filter (keep ·.1)) name value
      else o.filter (keep ·.1) := by
  induction o with
  | nil => cases h : keep name <;> simp [put, h]
  | cons m o ih =>
    obtain ⟨n, v⟩ := m
    by_cases hname : n = name
    · subst hname
      cases h : keep n <;> simp [put, h]
    · simp only [put, hname, if_false, List.filter_cons, ih]
      cases keep n <;> cases keep name <;> simp [put, hname]

/-- What is kept by its name is put into what is kept. -/
theorem filter_merge (o p : Object) :
    (o.merge p).filter (keep ·.1) =
      Json.Object.merge (o.filter (keep ·.1)) (p.filter (keep ·.1)) := by
  induction p generalizing o with
  | nil => rfl
  | cons m p ih =>
    obtain ⟨n, v⟩ := m
    rw [merge_cons, ih, filter_put, List.filter_cons]
    cases keep n <;> rfl

end Filter

end Json.Object

/-! ### Values -/

namespace Json

theorem all_map_ok {α : Type} (items : List α) : Checked.all (items.map .ok) = .ok items := by
  induction items with
  | nil => rfl
  | cons a items ih =>
    rw [List.map_cons, Checked.all, ih]
    rfl

theorem asTexts_texts (items : List String) : asTexts (.arr (items.map .str)) = .ok items := by
  have hitems : ((items.map Json.str).mapIdx fun i v => (asText v).under (.index i)) =
      items.map .ok := by
    refine List.ext_getElem (by simp) fun i _ _ => ?_
    simp [asText, Checked.under]
  rw [asTexts, asItems, hitems, all_map_ok]

end Json

/-- A value is written as one that is read as it; numbers keep their kind, and sizes within their
bounds are not moved. -/
theorem FieldType.read_toJson (type : FieldType) (value : type.Carrier) :
    type.read (type.toJson value) = .ok value := by
  cases type with
  | text => rfl
  | pixels => cases value <;> rfl
  | texts => exact Json.asTexts_texts value
  | within bounds =>
    simp only [read, toJson, Json.asInteger, Except.map]
    rw [Bounded.clamp_val]

/-! ### Records that are read -/

namespace Record

variable {fields : List Field} {changes : Json.Object}

theorem names_toObject (record : Record fields) :
    (toObject fields record).names = fields.map (·.name.wire) := by
  induction fields with
  | nil => rfl
  | cons f fields ih => exact congrArg (f.name.wire :: ·) (ih record.2)

/-- One record is another one in which each field that is named has the last value under its names.
The other fields are as they were. -/
def Revised (changes : Json.Object) : (fields : List Field) → Record fields → Record fields → Prop
  | [], (), () => True
  | f :: fields, (old, olds), (new, news) =>
      (match changes.last? f.name with
        | some v => f.type.read v = .ok new
        | none => new = old) ∧ Revised changes fields olds news

theorem revised_nil {old new : Record fields} : Revised [] fields old new ↔ new = old := by
  induction fields with
  | nil => exact iff_of_true trivial rfl
  | cons f fields ih =>
    obtain ⟨value, values⟩ := old
    rw [Revised, ih, Prod.ext_iff]
    rfl

/-- A record can be revised if the last value for each of its fields can be read. -/
theorem exists_revised (old : Record fields) :
    (∃ new, Revised changes fields old new) ↔
      ∀ f ∈ fields, ∀ v, changes.last? f.name = some v → (f.type.read v).isOk = true := by
  induction fields with
  | nil => exact iff_of_true ⟨(), trivial⟩ (List.forall_mem_nil _)
  | cons f fields ih =>
    obtain ⟨value, values⟩ := old
    rw [List.forall_mem_cons, ← ih values]
    cases hlast : changes.last? f.name with
    | none =>
      constructor
      · rintro ⟨⟨new, news⟩, -, hnews⟩
        exact ⟨fun v hv => absurd hv (Option.some_ne_none v).symm, news, hnews⟩
      · rintro ⟨-, news, hnews⟩
        exact ⟨(value, news), by rw [Revised, hlast]; exact ⟨rfl, hnews⟩⟩
    | some v =>
      simp only [Option.some.injEq, forall_eq', isOk_iff]
      constructor
      · rintro ⟨⟨new, news⟩, h⟩
        rw [Revised, hlast] at h
        exact ⟨⟨new, h.1⟩, news, h.2⟩
      · rintro ⟨⟨new, hnew⟩, news, hnews⟩
        exact ⟨(new, news), by rw [Revised, hlast]; exact ⟨hnew, hnews⟩⟩

/-- A written record into which members are put is read as the record that they revise. Before it no
member has the name of a field on the wire. -/
theorem read_merge_toObject (hnodup : (fields.map (·.name.wire)).Nodup) {put : Json.Object}
    (hlast : ∀ f ∈ fields, put.last? { wire := f.name.wire } = changes.last? f.name)
    (defaults old new : Record fields) (before : Json.Object)
    (hbefore : ∀ f ∈ fields, f.name.wire ∉ before.names) (after : Json.Object) :
    read fields defaults ((before ++ (toObject fields old ++ after)).merge put) = .ok new ↔
      Revised changes fields old new := by
  -- the fields that have been read join the members before
  induction fields generalizing before with
  | nil => exact iff_of_true rfl trivial
  | cons f fields ih =>
    obtain ⟨default, defaults⟩ := defaults
    obtain ⟨value, values⟩ := old
    obtain ⟨new, news⟩ := new
    rw [List.map_cons, List.nodup_cons] at hnodup
    rw [List.forall_mem_cons] at hbefore hlast
    have hfind : Json.Object.find?
        ((before ++ (toObject (f :: fields) (value, values) ++ after)).merge put) f.name =
          some (f.name.wire, (changes.last? f.name).getD (f.type.toJson value)) := by
      rw [Json.Object.find?, Json.Object.get?_merge, Json.Object.get?_append_of_not_mem hbefore.1,
        hlast.1]
      cases changes.last? f.name <;> simp [toObject, Json.Object.get?_cons]
    have hnext : ∀ g ∈ fields,
        g.name.wire ∉ Json.Object.names (before ++ [(f.name.wire, f.type.toJson value)]) := by
      intro g hg hmem
      simp only [Json.Object.names, List.map_append, List.map_cons, List.map_nil, List.mem_append,
        List.mem_singleton] at hmem
      rcases hmem with hmem | hname
      · exact hbefore.2 g hg hmem
      · exact hnodup.1 (List.mem_map.mpr ⟨g, hg, hname⟩)
    have hrest := ih hnodup.2 hlast.2 defaults values news _ hnext
    rw [read, Json.Object.optional, hfind, Checked.both_eq_ok, Checked.under_eq_ok, Revised,
      ← hrest, toObject, List.cons_append, List.append_cons]
    refine and_congr_left fun _ => ?_
    cases changes.last? f.name with
    | none =>
      simp only [Option.getD_none, FieldType.read_toJson, Except.ok.injEq]
      exact eq_comm
    | some v => rfl

theorem read_toObject (hnodup : (fields.map (·.name.wire)).Nodup) (defaults record : Record fields)
    (after : Json.Object) :
    read fields defaults (toObject fields record ++ after) = .ok record := by
  have hlast : ∀ f ∈ fields, Json.Object.last? { wire := f.name.wire } [] =
      Json.Object.last? f.name [] := fun _ _ => rfl
  have hread := read_merge_toObject hnodup hlast defaults record record []
    (fun _ _ => List.not_mem_nil) after
  exact hread.mpr (revised_nil.mpr rfl)

/-! ### Members that hold no field -/

/-- An object with all fields under their names on the wire has no other members but those under
other names. -/
theorem unused_of_isSome {o : Json.Object}
    (h : ∀ f ∈ fields, (o.get? f.name.wire).isSome = true) :
    unused fields o = o.filter fun m => !(fields.map (·.name.wire)).contains m.1 := by
  have hused : usedNames fields o = fields.map (·.name.wire) := by
    rw [usedNames, ← List.filterMap_eq_map]
    refine List.filterMap_congr fun f hf => ?_
    obtain ⟨v, hv⟩ := Option.isSome_iff_exists.mp (h f hf)
    rw [Json.Object.find?, hv]
    rfl
  rw [unused, hused]

theorem isSome_get?_toObject (record : Record fields) (after : Json.Object) {f : Field}
    (hf : f ∈ fields) :
    (Json.Object.get? (toObject fields record ++ after) f.name.wire).isSome = true := by
  have hname : f.name.wire ∈ (toObject fields record).names := by
    rw [names_toObject]
    exact List.mem_map.mpr ⟨f, hf, rfl⟩
  obtain ⟨m, hm, hwire⟩ := List.mem_map.mp hname
  rw [← hwire]
  exact Json.Object.isSome_get?_of_mem (List.mem_append_left after hm)

/-- The members beside the fields are those that are left, if none of them has the name of a field
on the wire. -/
theorem unused_toObject (record : Record fields) {after : Json.Object}
    (hafter : ∀ m ∈ after, ∀ f ∈ fields, m.1 ≠ f.name.wire) :
    unused fields (toObject fields record ++ after) = after := by
  rw [unused_of_isSome fun f => isSome_get?_toObject record after, List.filter_append,
    List.filter_eq_nil_iff.mpr, List.nil_append, List.filter_eq_self.mpr]
  · intro m hm
    have hname : m.1 ∉ fields.map (·.name.wire) := by
      intro hmem
      obtain ⟨f, hf, hwire⟩ := List.mem_map.mp hmem
      exact hafter m hm f hf hwire.symm
    rw [Bool.not_eq_true', List.contains_eq_mem, decide_eq_false hname]
  · intro m hm
    have hname : m.1 ∈ fields.map (·.name.wire) := by
      rw [← names_toObject record]
      exact List.mem_map.mpr ⟨m, hm, rfl⟩
    simpa using hname

/-! ### Changes under either name -/

/-- No name denotes two fields of a table. -/
def Unambiguous (fields : List Field) : Prop :=
  ∀ f ∈ fields, ∀ g ∈ fields, ∀ name, f.name.Denotes name → g.name.Denotes name → f = g

/-- It is enough that no name of a field denotes a later one. -/
theorem unambiguous_of_pairwise (h : fields.Pairwise fun f g =>
    ¬ g.name.Denotes f.name.wire ∧ ¬ g.name.Denotes f.name.other) : Unambiguous fields := by
  induction fields with
  | nil => exact fun f hf => absurd hf List.not_mem_nil
  | cons k fields ih =>
    obtain ⟨hk, hfields⟩ := List.pairwise_cons.mp h
    have hlater : ∀ g ∈ fields, ∀ name, k.name.Denotes name → ¬ g.name.Denotes name := by
      rintro g hg name (rfl | rfl)
      · exact (hk g hg).1
      · exact (hk g hg).2
    intro f hf g hg name hfname hgname
    rcases List.mem_cons.mp hf with rfl | hflater
    · rcases List.mem_cons.mp hg with rfl | hglater
      · rfl
      · exact absurd hgname (hlater g hglater name hfname)
    · rcases List.mem_cons.mp hg with rfl | hglater
      · exact absurd hfname (hlater f hflater name hgname)
      · exact ih hfields f hflater g hglater name hfname hgname

/-- Whether a name denotes no field of a table. -/
def isUndeclared (fields : List Field) (name : String) : Bool :=
  fields.all fun f => !decide (f.name.Denotes name)

/-- The members of an object that name no field. -/
def undeclared (fields : List Field) (o : Json.Object) : Json.Object :=
  o.filter fun m => isUndeclared fields m.1

theorem toWire_cons (name : String) (value : Json) (o : Json.Object) :
    toWire fields ((name, value) :: o) = (wireName fields name, value) :: toWire fields o := rfl

theorem undeclared_cons (name : String) (value : Json) (o : Json.Object) :
    undeclared fields ((name, value) :: o) =
      if isUndeclared fields name then (name, value) :: undeclared fields o
      else undeclared fields o :=
  List.filter_cons

theorem isUndeclared_iff {name : String} :
    isUndeclared fields name = true ↔ ∀ f ∈ fields, ¬ f.name.Denotes name := by
  simp [isUndeclared]

theorem wireName_of_isUndeclared {name : String} (h : isUndeclared fields name = true) :
    wireName fields name = name := by
  rw [isUndeclared_iff] at h
  unfold wireName
  split
  · rename_i f hf
    have hother : f.name.other = name := by simpa using List.find?_some hf
    exact absurd (.inr hother.symm) (h f (List.mem_of_find?_eq_some hf))
  · rfl

section Unambiguous

variable (h : Unambiguous fields)
include h

theorem wireName_of_denotes {f : Field} (hf : f ∈ fields) {name : String}
    (hname : f.name.Denotes name) : wireName fields name = f.name.wire := by
  unfold wireName
  split
  · rename_i g hg
    have hother : g.name.other = name := by simpa using List.find?_some hg
    rw [h g (List.mem_of_find?_eq_some hg) f hf name (.inr hother.symm) hname]
  · rename_i hnone
    rcases hname with hwire | hother
    · exact hwire
    · simpa [hother] using List.find?_eq_none.mp hnone f hf

theorem wireName_eq_wire_iff {f : Field} (hf : f ∈ fields) {name : String} :
    wireName fields name = f.name.wire ↔ f.name.Denotes name := by
  refine ⟨fun hwire => ?_, wireName_of_denotes h hf⟩
  cases hundeclared : isUndeclared fields name with
  | true =>
    rw [wireName_of_isUndeclared hundeclared] at hwire
    exact .inl hwire
  | false =>
    -- the name denotes some field, whose name on the wire is that of `f`
    rw [Bool.eq_false_iff, ne_eq, isUndeclared_iff] at hundeclared
    simp only [not_forall, not_not] at hundeclared
    obtain ⟨g, hg, hname⟩ := hundeclared
    rw [wireName_of_denotes h hg hname] at hwire
    rwa [h f hf g hg f.name.wire f.name.denotes_wire (.inl hwire.symm)]

/-- Under its name on the wire a field has the last value under either of its names. -/
theorem last?_toWire (changes : Json.Object) {f : Field} (hf : f ∈ fields) :
    (toWire fields changes).last? { wire := f.name.wire } = changes.last? f.name := by
  induction changes with
  | nil => rfl
  | cons m changes ih =>
    obtain ⟨name, value⟩ := m
    simp only [toWire_cons, Json.Object.last?, ih, FieldName.denotes_single,
      wireName_eq_wire_iff h hf]

/-- Changes under no name of a field are not renamed, and the others are not beside the fields. -/
theorem filter_toWire :
    (toWire fields changes).filter (fun m => !(fields.map (·.name.wire)).contains m.1) =
      undeclared fields changes := by
  induction changes with
  | nil => rfl
  | cons m changes ih =>
    obtain ⟨name, value⟩ := m
    have hkeep : (!(fields.map (·.name.wire)).contains (wireName fields name)) =
        isUndeclared fields name := by
      rw [Bool.eq_iff_iff, isUndeclared_iff]
      simp only [Bool.not_eq_true', List.contains_eq_mem, decide_eq_false_iff_not, List.mem_map,
        not_exists, not_and]
      refine forall₂_congr fun f hf => not_congr ?_
      rw [eq_comm, wireName_eq_wire_iff h hf]
    rw [toWire_cons, List.filter_cons, hkeep, ih, undeclared_cons]
    cases hundeclared : isUndeclared fields name with
    | true => rw [if_pos rfl, if_pos rfl, wireName_of_isUndeclared hundeclared]
    | false => rfl

/-- The members beside a written record that is revised are those that were there, into which the
changes that name no field are put. -/
theorem unused_merge_toObject (changes : Json.Object) (record : Record fields) {after : Json.Object}
    (hafter : ∀ m ∈ after, ∀ f ∈ fields, m.1 ≠ f.name.wire) :
    unused fields ((toObject fields record ++ after).merge (toWire fields changes)) =
      after.merge (undeclared fields changes) := by
  have hsome : ∀ f ∈ fields,
      (Json.Object.get? ((toObject fields record ++ after).merge (toWire fields changes))
        f.name.wire).isSome = true := by
    intro f hf
    rw [Json.Object.get?_merge, Option.isSome_or, isSome_get?_toObject record after hf,
      Bool.or_true]
  rw [unused_of_isSome hsome,
    Json.Object.filter_merge (fun name => !(fields.map (·.name.wire)).contains name),
    filter_toWire h, ← unused_of_isSome fun f => isSome_get?_toObject record after,
    unused_toObject record hafter]

end Unambiguous

end Record
end MailTemplate
