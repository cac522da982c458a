import MailTemplate.Proofs.Document.Loading
import MailTemplate.Proofs.Record

/-!
# What is kept of a stored content

The members of a stored content are judged one at a time, and those that are kept are read together.
Nothing that is valid gets lost between the two: whatever stands under one name of a field, a valid
value under the other name counts.

* `Json.Object.valid?`: the valid value under a name;
* `Record.isFaulty`, `Record.ofValid` and `Record.isShadowed`: the members that a table of fields
  refuses, the record of the valid values, and the valid values that are not in it;
* `Stored.isKept_of_denotes` and `isKept_of_isUndeclared`: which members are kept;
* `Record.HoldsValid` and `Stored.holdsValid_filter_isKept`: what the kept members hold for a field;
* `Stored.keptContent_exact`: what is read of the kept members, and what is warned of.
-/

namespace MailTemplate

/-! ### Valid values -/

namespace Json.Object

/-- The value of the first member of a name that is valid for a type, which null never is. -/
def valid? (o : Object) (type : FieldType) (name : String) : Option type.Carrier :=
  o.findSome? fun m => if m.1 = name then (type.read m.2).toOption else none

variable {o : Object} {type : FieldType} {name : String}

theorem valid?_cons (n : String) (v : Json) :
    valid? ((n, v) :: o) type name =
      (if n = name then (type.read v).toOption else none).or (o.valid? type name) := by
  rw [valid?, List.findSome?_cons]
  split
  · rename_i h
    rw [h, Option.some_or]
  · rename_i h
    rw [h, Option.none_or]
    rfl

/-- A member of an object holds a field that it names unless it has the other name of the field and
there is one with the name on the wire. -/
theorem map_find?_eq_some_iff {field : FieldName} {value : Json} (hm : (name, value) ∈ o)
    (hname : field.Denotes name) :
    (o.find? field).map (·.1) = some name ↔
      name = field.wire ∨ (get? o field.wire).isSome = false := by
  have hsome : (get? o name).isSome = true := isSome_get?_of_mem hm
  rw [find?]
  cases hwire : get? o field.wire with
  | some v => simp [eq_comm]
  | none =>
    have hother : name = field.other := by
      refine hname.resolve_left fun heq => ?_
      rw [heq, hwire] at hsome
      contradiction
    obtain ⟨v, hv⟩ := Option.isSome_iff_exists.mp hsome
    simp [← hother, hv]

end Json.Object

namespace Record

variable {fields : List Field} {o p : Json.Object}

/-- Whether a member names a field and has a value that is neither null nor valid for it. -/
def isFaulty (fields : List Field) (m : String × Json) : Bool :=
  m.2 ≠ .null && fields.any fun f => f.name.Denotes m.1 && !(f.type.read m.2).isOk

/-- The record of the valid values: each field has the one under its name on the wire, or else the
one under its other name, or else its default. -/
def ofValid : (fields : List Field) → Record fields → Json.Object → Record fields
  | [], (), _ => ()
  | f :: fields, (value, values), o =>
      (((o.valid? f.type f.name.wire).or (o.valid? f.type f.name.other)).getD value,
        ofValid fields values o)

/-- Whether a member is a valid value under the other name of a field that has one under its name on
the wire. -/
def isShadowed (fields : List Field) (o : Json.Object) (m : String × Json) : Bool :=
  fields.any fun f =>
    m.1 = f.name.other && m.1 ≠ f.name.wire && (f.type.read m.2).isOk &&
      (o.valid? f.type f.name.wire).isSome

/-- The members of an object hold the valid values of another one for a field: under each of its
names they have such a value or none at all. -/
def HoldsValid (p o : Json.Object) (f : Field) : Prop :=
  ∀ name, f.name.Denotes name → (p.get? name).map f.type.read = (o.valid? f.type name).map .ok

theorem HoldsValid.isSome_get? {f : Field} (h : HoldsValid p o f) :
    (p.get? f.name.wire).isSome = (o.valid? f.type f.name.wire).isSome := by
  have hwire := congrArg Option.isSome (h f.name.wire (.inl rfl))
  rwa [Option.isSome_map, Option.isSome_map] at hwire

theorem HoldsValid.exists_valid {f : Field} (h : HoldsValid p o f) {name : String}
    (hname : f.name.Denotes name) {v : Json} (hv : p.get? name = some v) :
    ∃ a, o.valid? f.type name = some a ∧ f.type.read v = .ok a := by
  have hread := h name hname
  rw [hv, Option.map_some] at hread
  obtain ⟨a, ha, hok⟩ := Option.map_eq_some_iff.mp hread.symm
  exact ⟨a, ha, hok.symm⟩

theorem HoldsValid.valid?_eq_none {f : Field} (h : HoldsValid p o f) {name : String}
    (hname : f.name.Denotes name) (hv : p.get? name = none) : o.valid? f.type name = none := by
  have hread := h name hname
  rw [hv, Option.map_none] at hread
  exact Option.map_eq_none_iff.mp hread.symm

/-- A field is read from the valid value that comes first. -/
theorem HoldsValid.optional_eq {f : Field} (h : HoldsValid p o f) (default : f.type.Carrier) :
    p.optional f.name default f.type.read =
      .ok (((o.valid? f.type f.name.wire).or (o.valid? f.type f.name.other)).getD default) := by
  rw [Json.Object.optional, Json.Object.find?]
  cases hwire : p.get? f.name.wire with
  | some v =>
    obtain ⟨a, ha, hread⟩ := h.exists_valid (.inl rfl) hwire
    rw [ha]
    exact Checked.under_eq_ok.mpr hread
  | none =>
    rw [h.valid?_eq_none (.inl rfl) hwire, Option.none_or]
    cases hother : p.get? f.name.other with
    | some v =>
      obtain ⟨a, ha, hread⟩ := h.exists_valid (.inr rfl) hother
      rw [ha]
      exact Checked.under_eq_ok.mpr hread
    | none =>
      rw [h.valid?_eq_none (.inr rfl) hother]
      rfl

/-- Members that hold the valid values for all fields of a table are read as the record of these. -/
theorem read_eq_ofValid (h : ∀ f ∈ fields, HoldsValid p o f) (defaults : Record fields) :
    read fields defaults p = .ok (ofValid fields defaults o) := by
  induction fields with
  | nil => rfl
  | cons f fields ih =>
    obtain ⟨value, values⟩ := defaults
    rw [List.forall_mem_cons] at h
    rw [read, h.1.optional_eq, ih h.2]
    rfl

theorem exists_denotes {name : String} (h : isUndeclared fields name = false) :
    ∃ f ∈ fields, f.name.Denotes name := by
  simpa [isUndeclared] using h

theorem denotes_of_mem_usedNames {name : String} (h : name ∈ usedNames fields o) :
    ∃ f ∈ fields, f.name.Denotes name := by
  obtain ⟨f, hf, hfind⟩ := List.mem_filterMap.mp h
  obtain ⟨m, hm, rfl⟩ := Option.map_eq_some_iff.mp hfind
  exact ⟨f, hf, Json.Object.name_of_find? hm⟩

end Record

/-! ### Kept members -/

namespace Stored

variable {settings : Settings} {kind : Kind} {f : Field} {name : String} {o : Json.Object}

/-- A member that names a field is kept if its value is valid for the field. -/
theorem isKept_of_denotes (hf : f ∈ kind.fields) (hname : f.name.Denotes name) (value : Json) :
    isKept settings kind (name, value) = (f.type.read value).isOk := by
  rw [Bool.eq_iff_iff, isKept_iff]
  constructor
  · exact fun h => h.2 f hf hname
  · intro hread
    refine ⟨?_, fun g hg hgname => ?_⟩
    · rintro rfl
      rw [f.type.isOk_read_null] at hread
      contradiction
    · rwa [kind.field_unique hg hf hgname hname]

/-- A member that names no field is kept if it is not null. -/
theorem isKept_of_isUndeclared (h : Record.isUndeclared kind.fields name = true) (value : Json) :
    isKept settings kind (name, value) = decide (value ≠ .null) := by
  rw [Record.isUndeclared_iff] at h
  rw [Bool.eq_iff_iff, isKept_iff, decide_eq_true_eq]
  exact and_iff_left fun f hf hname => absurd hname (h f hf)

/-- A member is kept unless it is null or at fault. -/
theorem isKept_eq (m : String × Json) :
    isKept settings kind m = (m.2 ≠ .null && !Record.isFaulty kind.fields m) := by
  obtain ⟨name, value⟩ := m
  rw [Bool.eq_iff_iff, isKept_iff]
  by_cases hnull : value = .null
  · simp [hnull]
  · simp only [Record.isFaulty, hnull, ne_eq, not_false_eq_true, decide_true, Bool.true_and,
      true_and, Bool.not_eq_true', List.any_eq_false, Bool.and_eq_true, decide_eq_true_eq, not_and,
      Bool.not_eq_false]
    exact Iff.rfl

/-- Under the names of a field the kept members have the valid values. -/
theorem holdsValid_filter_isKept (hf : f ∈ kind.fields) :
    Record.HoldsValid (o.filter (isKept settings kind)) o f := by
  intro name hname
  induction o with
  | nil => rfl
  | cons m o ih =>
    obtain ⟨n, v⟩ := m
    rw [Json.Object.valid?_cons]
    by_cases hn : n = name
    · subst hn
      have hkept : isKept settings kind (n, v) = (f.type.read v).isOk := isKept_of_denotes hf hname v
      cases hread : f.type.read v with
      | ok a =>
        rw [hread] at hkept
        rw [List.filter_cons_of_pos hkept, Json.Object.get?_cons, if_pos rfl, if_pos rfl,
          Option.map_some, hread]
        rfl
      | error issues =>
        rw [hread] at hkept
        rw [List.filter_cons_of_neg (by rw [hkept]; exact Bool.false_ne_true), ih, if_pos rfl]
        rfl
    · rw [if_neg hn, Option.none_or, ← ih]
      by_cases hkept : isKept settings kind (n, v) = true
      · rw [List.filter_cons_of_pos hkept, Json.Object.get?_cons, if_neg hn]
      · rw [List.filter_cons_of_neg hkept]

/-- A name denotes one field only, which decides whether its value comes after another one. -/
theorem isShadowed_of_denotes (o : Json.Object) (hf : f ∈ kind.fields)
    (hname : f.name.Denotes name) (value : Json) :
    Record.isShadowed kind.fields o (name, value) =
      (name ≠ f.name.wire && (f.type.read value).isOk && (o.valid? f.type f.name.wire).isSome) := by
  rw [Bool.eq_iff_iff, Record.isShadowed, List.any_eq_true]
  simp only [Bool.and_eq_true, decide_eq_true_eq]
  constructor
  · rintro ⟨g, hg, ⟨⟨hother, hwire⟩, hread⟩, hvalid⟩
    obtain rfl := kind.field_unique hg hf (.inr hother) hname
    exact ⟨⟨hwire, hread⟩, hvalid⟩
  · rintro ⟨⟨hwire, hread⟩, hvalid⟩
    exact ⟨f, hf, ⟨⟨hname.resolve_left hwire, hwire⟩, hread⟩, hvalid⟩

theorem mem_usedNames_iff (hf : f ∈ kind.fields) (hname : f.name.Denotes name) (o : Json.Object) :
    name ∈ Record.usedNames kind.fields o ↔ (o.find? f.name).map (·.1) = some name := by
  rw [Record.usedNames, List.mem_filterMap]
  constructor
  · rintro ⟨g, hg, hfind⟩
    obtain ⟨m, hm, rfl⟩ := Option.map_eq_some_iff.mp hfind
    obtain rfl := kind.field_unique hg hf (Json.Object.name_of_find? hm) hname
    exact hfind
  · exact fun hfind => ⟨f, hf, hfind⟩

/-- There is one warning for each member at fault, in order. -/
theorem warnings_keptMembers (kind : Kind) (id : Json) (o : Json.Object) :
    (keptMembers settings kind id o).2 =
      (o.filter (Record.isFaulty kind.fields)).map fun m => .invalidAttribute m.1 id := by
  induction o with
  | nil => rfl
  | cons m o ih =>
    obtain ⟨name, value⟩ := m
    simp only [keptMembers]
    by_cases hnull : value = .null
    · have hfaulty : Record.isFaulty kind.fields (name, value) = false := by
        simp [Record.isFaulty, hnull]
      rw [if_pos hnull, List.filter_cons_of_neg (by simp [hfaulty]), ih]
    · have hfaulty : (Attributes.ofObject kind (kind.defaults settings) [(name, value)]).isOk =
          !Record.isFaulty kind.fields (name, value) := by
        have hkept : isKept settings kind (name, value) = _ := isKept_eq (name, value)
        simpa only [isKept, ne_eq, hnull, not_false_eq_true, decide_true, Bool.true_and] using hkept
      rw [if_neg hnull]
      split
      · rename_i a ha
        rw [isOk_iff.mpr ⟨a, ha⟩, eq_comm, Bool.not_eq_true'] at hfaulty
        rw [List.filter_cons_of_neg (by simp [hfaulty]), ih]
      · rename_i issues hissues
        have hfail : Except.isOk (.error issues : Checked Attributes) = false := rfl
        rw [hissues, hfail, eq_comm, Bool.not_eq_false'] at hfaulty
        rw [List.filter_cons_of_pos hfaulty, List.map_cons, ih]

/-- A kept member is used for its field unless it has the other name of the field and there is a valid
value under the name on the wire. -/
theorem mem_usedNames_filter_isKept (hf : f ∈ kind.fields) (hname : f.name.Denotes name)
    {value : Json} (hm : (name, value) ∈ o.filter (isKept settings kind)) :
    name ∈ Record.usedNames kind.fields (o.filter (isKept settings kind)) ↔
      name = f.name.wire ∨ (o.valid? f.type f.name.wire).isSome = false := by
  have hholds : Record.HoldsValid (o.filter (isKept settings kind)) o f :=
    holdsValid_filter_isKept hf
  rw [mem_usedNames_iff hf hname, Json.Object.map_find?_eq_some_iff hm hname, hholds.isSome_get?]

/-- Among the members beside the kept fields are those under no name of a field, and the valid values
that another one comes before. -/
theorem unused_filter_isKept (kind : Kind) (o : Json.Object) :
    Record.unused kind.fields (o.filter (isKept settings kind)) =
      o.filter fun m => m.2 ≠ .null &&
        (Record.isUndeclared kind.fields m.1 || Record.isShadowed kind.fields o m) := by
  rw [Record.unused, List.filter_filter]
  refine List.filter_congr fun m hm => ?_
  obtain ⟨name, value⟩ := m
  cases hundeclared : Record.isUndeclared kind.fields name with
  | true =>
    have hunused : name ∉ Record.usedNames kind.fields (o.filter (isKept settings kind)) := by
      intro hused
      obtain ⟨f, hf, hname⟩ := Record.denotes_of_mem_usedNames hused
      exact Record.isUndeclared_iff.mp hundeclared f hf hname
    simp [isKept_of_isUndeclared hundeclared, hunused]
  | false =>
    obtain ⟨f, hf, hname⟩ := Record.exists_denotes hundeclared
    have hshadowed := isShadowed_of_denotes o hf hname value
    have hkept : isKept settings kind (name, value) = (f.type.read value).isOk :=
      isKept_of_denotes hf hname value
    cases hread : (f.type.read value).isOk with
    | false => simp [hkept, hshadowed, hread]
    | true =>
      have hused := mem_usedNames_filter_isKept hf hname
        (List.mem_filter.mpr ⟨hm, hkept.trans hread⟩)
      have hnull : value ≠ .null := by
        rintro rfl
        rw [f.type.isOk_read_null] at hread
        contradiction
      rw [Bool.eq_iff_iff]
      simp [hkept, hshadowed, hread, hnull, hused, Option.isSome_iff_ne_none]

/-- The kept members of a content are those that are neither null nor at fault, and they can always
be read together. Each field then has the valid value under its name on the wire, or else the one
under its other name, or else its default. Beside the fields stand the members under other names that
are not null, as they are, and the values under the other name of a field that the one on the wire
comes before. There is one warning for each member at fault, in order. -/
theorem keptContent_exact (settings : Settings) (kind : Kind) (id : Json) (o : Json.Object) :
    let fields := kind.fields
    let kept := (keptContent settings kind id (.obj o)).1
    let warnings := (keptContent settings kind id (.obj o)).2
    let extra := o.filter fun m =>
      m.2 ≠ .null && (Record.isUndeclared fields m.1 || Record.isShadowed fields o m)
    kept = o.filter (fun m => m.2 ≠ .null && !Record.isFaulty fields m) ∧
      Attributes.read settings kind (.obj kept) =
        .ok ⟨.ofRecord kind (Record.ofValid fields (kind.defaults settings) o), extra⟩ ∧
      Record.undeclared fields extra = (Record.undeclared fields o).filter (·.2 ≠ .null) ∧
      warnings = (o.filter (Record.isFaulty fields)).map fun m => .invalidAttribute m.1 id := by
  intro fields kept warnings extra
  have hkept : kept = o.filter (isKept settings kind) := keptMembers_eq_filter kind id o
  refine ⟨?_, ?_, ?_, warnings_keptMembers kind id o⟩
  · rw [hkept]
    exact List.filter_congr fun m _ => isKept_eq m
  · have hholds : ∀ f ∈ fields, Record.HoldsValid kept o f := by
      rw [hkept]
      exact fun f hf => holdsValid_filter_isKept hf
    have hextra : Record.unused fields kept = extra := by
      rw [hkept]
      exact unused_filter_isKept kind o
    rw [← hextra]
    exact Attributes.ofObject_eq_ok.mpr ⟨_, Record.read_eq_ofValid hholds _, rfl⟩
  · rw [Record.undeclared, Record.undeclared, List.filter_filter, List.filter_filter]
    refine List.filter_congr fun m _ => ?_
    cases Record.isUndeclared fields m.1 <;> simp

/-- An invalid size under the name on the wire does not hide the one under the other name. -/
example :
    let settings : Settings := ⟨2024, "", "", ""⟩
    let o : Json.Object := [("fontSize", .arr []), ("font_size", .int 18), ("text", .null),
      ("note", .null), ("tag", .obj [])]
    let result := keptContent settings .paragraph (.str "p") (.obj o)
    Attributes.read settings .paragraph (.obj result.1) =
        .ok ⟨.paragraph "Your text here..." "#475569" (.int 18), [("tag", .obj [])]⟩ ∧
      result.2 = [.invalidAttribute "fontSize" (.str "p")] := by
  exact ⟨rfl, rfl⟩

end Stored
end MailTemplate
