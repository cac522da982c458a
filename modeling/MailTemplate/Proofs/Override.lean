import MailTemplate.Proofs.Record

/-!
# Changes one after the other

Changes are members that are put into a written record. Two objects of changes can be put into it one
after the other, as one object that holds the members of both, or as one in which every name stands
once, in its form on the wire.

* `Json.Object.merge_merge`: members that are put into members that are put into an object;
* `Json.Object.merge_eq_self`: members that an object has already;
* `Record.override` and `merge_toWire_override`: changes that are overridden by others, name by name;
* `Record.revised_append`: a record that is revised twice;
* `Record.Separate` and `last?_append_comm`: changes that share no name, in either order.
-/

namespace MailTemplate

/-! ### Members put into members -/

namespace Json.Object

variable {o p q : Object} {m n : String}

theorem merge_append (o p q : Object) : o.merge (p ++ q) = (o.merge p).merge q := List.foldl_append

theorem mem_names_put {v : Json} : m ∈ (o.put n v).names ↔ m = n ∨ m ∈ o.names := by
  induction o with
  | nil => simp [put, names]
  | cons member o ih =>
    obtain ⟨k, w⟩ := member
    simp only [names] at ih
    by_cases hk : k = n
    · subst hk
      simp [put, names]
    · simp only [put, hk, if_false, names, List.map_cons, List.mem_cons, ih]
      exact or_left_comm

theorem mem_names_merge : n ∈ (o.merge p).names ↔ n ∈ o.names ∨ n ∈ p.names := by
  induction p generalizing o with
  | nil => simp [merge, names]
  | cons member p ih =>
    obtain ⟨k, v⟩ := member
    rw [merge_cons, ih, mem_names_put, or_comm (a := n = k), or_assoc]
    exact or_congr_right List.mem_cons.symm

/-- A name that is put into an object does not come to stand twice in it. -/
theorem nodup_names_put (h : o.names.Nodup) (v : Json) : (o.put n v).names.Nodup := by
  induction o with
  | nil => simp [put, names]
  | cons member o ih =>
    obtain ⟨k, w⟩ := member
    obtain ⟨hk, ho⟩ := List.nodup_cons.mp h
    by_cases hkn : k = n
    · subst hkn
      rw [put, if_pos rfl]
      exact h
    · rw [put, if_neg hkn]
      refine List.nodup_cons.mpr ⟨fun hmem => ?_, ih ho⟩
      rcases mem_names_put.mp hmem with hname | hmem
      · exact hkn hname
      · exact hk hmem

theorem nodup_names_merge (h : o.names.Nodup) (p : Object) : (o.merge p).names.Nodup := by
  induction p generalizing o with
  | nil => exact h
  | cons member p ih => exact ih (nodup_names_put h member.2)

theorem put_put (o : Object) (n : String) (v w : Json) : (o.put n v).put n w = o.put n w := by
  induction o with
  | nil => simp [put]
  | cons member o ih =>
    obtain ⟨k, u⟩ := member
    by_cases hk : k = n <;> simp [put, hk, ih]

/-- A member that is there keeps its place, so that it may as well be replaced last. -/
theorem put_comm (hne : m ≠ n) (hm : m ∈ o.names) (v w : Json) :
    (o.put m v).put n w = (o.put n w).put m v := by
  induction o with
  | nil => contradiction
  | cons member o ih =>
    obtain ⟨k, u⟩ := member
    rcases List.mem_cons.mp hm with rfl | hm
    · simp [put, hne]
    · by_cases hkm : k = m
      · subst hkm
        simp [put, hne]
      · by_cases hkn : k = n
        · subst hkn
          simp [put, hkm]
        · simp [put, hkm, hkn, ih hm]

theorem put_merge (hn : n ∈ o.names) (hp : n ∉ p.names) (v : Json) :
    (o.put n v).merge p = (o.merge p).put n v := by
  induction p generalizing o with
  | nil => rfl
  | cons member p ih =>
    obtain ⟨k, w⟩ := member
    rw [names, List.map_cons, List.mem_cons, not_or] at hp
    rw [merge_cons, merge_cons, put_comm hp.1 hn, ih (mem_names_put.mpr (.inr hn)) hp.2]

theorem merge_put (hp : p.names.Nodup) (o : Object) (n : String) (v : Json) :
    o.merge (p.put n v) = (o.merge p).put n v := by
  induction p generalizing o with
  | nil => rfl
  | cons member p ih =>
    obtain ⟨k, w⟩ := member
    obtain ⟨hk, hp⟩ := List.nodup_cons.mp hp
    by_cases hkn : k = n
    · subst hkn
      have hmem : k ∈ (o.put k w).names := mem_names_put.mpr (.inl rfl)
      rw [put, if_pos rfl, merge_cons, merge_cons, ← put_merge hmem hk, put_put]
    · rw [put, if_neg hkn, merge_cons, merge_cons, ih hp]

/-- If its names differ, members that are put into a second object may as well be put into an object
after it. -/
theorem merge_merge (hp : p.names.Nodup) (o q : Object) :
    o.merge (p.merge q) = (o.merge p).merge q := by
  induction q generalizing p with
  | nil => rfl
  | cons member q ih =>
    obtain ⟨k, v⟩ := member
    rw [merge_cons, merge_cons, ih (nodup_names_put hp v), merge_put hp]

theorem last?_append (p q : Object) (field : FieldName) :
    (p ++ q).last? field = (q.last? field).or (p.last? field) := by
  induction p with
  | nil => simp [last?]
  | cons member p ih =>
    obtain ⟨k, v⟩ := member
    rw [List.cons_append, last?, last?, ih, Option.or_assoc]

theorem mem_names_of_last? {v : Json} (h : o.last? { wire := n } = some v) : n ∈ o.names := by
  induction o with
  | nil => contradiction
  | cons member o ih =>
    obtain ⟨k, w⟩ := member
    rw [last?, Option.or_eq_some_iff] at h
    rcases h with h | ⟨-, h⟩
    · exact List.mem_cons_of_mem k (ih h)
    · split at h
      · rename_i hname
        rw [FieldName.denotes_single.mp hname]
        exact List.mem_cons_self
      · contradiction

/-! ### Members that are there already -/

end Json.Object

namespace Record

variable {fields : List Field} {p q : Json.Object}

/-! ### Changes that override others -/

/-- Changes under their names on the wire. Each name stands once, with its last value. -/
def normal (fields : List Field) (changes : Json.Object) : Json.Object :=
  Json.Object.merge [] (toWire fields changes)

/-- Changes that are overridden by others, name by name. -/
def override (fields : List Field) (p q : Json.Object) : Json.Object :=
  (normal fields p).merge (normal fields q)

theorem nodup_names_normal (fields : List Field) (changes : Json.Object) :
    (normal fields changes).names.Nodup :=
  Json.Object.nodup_names_merge (o := []) List.nodup_nil _

theorem merge_normal (fields : List Field) (o changes : Json.Object) :
    o.merge (normal fields changes) = o.merge (toWire fields changes) :=
  Json.Object.merge_merge (p := []) List.nodup_nil o _

theorem mem_names_normal {name : String} :
    name ∈ (normal fields p).names ↔ name ∈ (toWire fields p).names := by
  rw [normal, Json.Object.mem_names_merge]
  exact or_iff_right List.not_mem_nil

theorem toWire_eq_self (h : ∀ name ∈ p.names, wireName fields name = name) :
    toWire fields p = p := by
  refine (List.map_congr_left fun m hm => ?_).trans (List.map_id p)
  exact Prod.ext (h m.1 (List.mem_map_of_mem hm)) rfl

theorem wireName_wireName (h : Unambiguous fields) (name : String) :
    wireName fields (wireName fields name) = wireName fields name := by
  cases hname : isUndeclared fields name with
  | true => rw [wireName_of_isUndeclared hname, wireName_of_isUndeclared hname]
  | false =>
    rw [Bool.eq_false_iff, ne_eq, isUndeclared_iff] at hname
    simp only [not_forall, not_not] at hname
    obtain ⟨f, hf, hname⟩ := hname
    rw [wireName_of_denotes h hf hname, wireName_of_denotes h hf f.name.denotes_wire]

theorem toWire_override (h : Unambiguous fields) (p q : Json.Object) :
    toWire fields (override fields p q) = override fields p q := by
  have hwire (changes : Json.Object) : ∀ name ∈ (toWire fields changes).names,
      wireName fields name = name := by
    intro name hname
    rw [Json.Object.names, toWire, List.map_map, List.mem_map] at hname
    obtain ⟨m, -, rfl⟩ := hname
    exact wireName_wireName h m.1
  refine toWire_eq_self fun name hname => ?_
  rw [override, Json.Object.mem_names_merge, mem_names_normal, mem_names_normal] at hname
  exact hname.elim (hwire p name) (hwire q name)

/-- Changes that are overridden by others have the effect of all of them in order. -/
theorem merge_toWire_override (h : Unambiguous fields) (o p q : Json.Object) :
    o.merge (toWire fields (override fields p q)) = o.merge (toWire fields (p ++ q)) := by
  have happend : toWire fields (p ++ q) = toWire fields p ++ toWire fields q := List.map_append
  rw [toWire_override h, override, Json.Object.merge_merge (nodup_names_normal fields p),
    merge_normal, merge_normal, happend, Json.Object.merge_append]

/-! ### Records that are revised twice -/

theorem revised_congr (h : ∀ f ∈ fields, p.last? f.name = q.last? f.name) {old new : Record fields} :
    Revised p fields old new ↔ Revised q fields old new := by
  induction fields with
  | nil => exact Iff.rfl
  | cons f fields ih =>
    rw [List.forall_mem_cons] at h
    rw [Revised, Revised, h.1, ih h.2]

/-- Two revisions are one, by the changes of both. -/
theorem revised_append {old middle new : Record fields} (h : Revised p fields old middle) :
    Revised (p ++ q) fields old new ↔ Revised q fields middle new := by
  induction fields with
  | nil => exact Iff.rfl
  | cons f fields ih =>
    rw [Revised] at h
    rw [Revised, Revised, ih h.2, Json.Object.last?_append]
    refine and_congr_left fun _ => ?_
    -- the first changes count for this field only if the second do not name it
    cases q.last? f.name with
    | some v => exact Iff.rfl
    | none =>
      have hfirst := h.1
      rw [Option.none_or]
      cases hlast : p.last? f.name with
      | none =>
        rw [hlast] at hfirst
        rw [hfirst]
      | some v =>
        rw [hlast] at hfirst
        simp only [hfirst, Except.ok.injEq]
        exact eq_comm

theorem exists_revised_append {old new new' : Record fields} (hp : Revised p fields old new)
    (hq : Revised q fields old new') : ∃ both, Revised (p ++ q) fields old both := by
  refine (exists_revised old).mpr fun f hf v hv => ?_
  rw [Json.Object.last?_append, Option.or_eq_some_iff] at hv
  rcases hv with hv | ⟨-, hv⟩
  · exact (exists_revised old).mp ⟨new', hq⟩ f hf v hv
  · exact (exists_revised old).mp ⟨new, hp⟩ f hf v hv

theorem undeclared_append (fields : List Field) (p q : Json.Object) :
    undeclared fields (p ++ q) = undeclared fields p ++ undeclared fields q :=
  List.filter_append ..

/-! ### Changes that share no name -/

/-- No name on the wire stands in both of two objects of changes. -/
def Separate (fields : List Field) (p q : Json.Object) : Prop :=
  ∀ name ∈ (toWire fields p).names, name ∉ (toWire fields q).names

instance (fields : List Field) (p q : Json.Object) : Decidable (Separate fields p q) :=
  inferInstanceAs (Decidable (∀ name ∈ (toWire fields p).names, name ∉ (toWire fields q).names))

/-- The last value in two objects does not depend on their order, if only one of them gives one. -/
theorem last?_append_comm {field : FieldName}
    (h : ∀ v w, p.last? field = some v → q.last? field ≠ some w) :
    (p ++ q).last? field = (q ++ p).last? field := by
  rw [Json.Object.last?_append, Json.Object.last?_append]
  cases hp : p.last? field with
  | none => simp
  | some v =>
    cases hq : q.last? field with
    | none => rfl
    | some w => exact absurd hq (h v w hp)

section Separate

variable (h : Separate fields p q)
include h

theorem Separate.last?_field (hfields : Unambiguous fields) {f : Field} (hf : f ∈ fields) :
    (p ++ q).last? f.name = (q ++ p).last? f.name := by
  refine last?_append_comm fun v w hp hq => ?_
  rw [← last?_toWire hfields _ hf] at hp hq
  exact h f.name.wire (Json.Object.mem_names_of_last? hp) (Json.Object.mem_names_of_last? hq)

theorem Separate.last?_undeclared {name : String} (hname : isUndeclared fields name = true) :
    (p ++ q).last? { wire := name } = (q ++ p).last? { wire := name } := by
  have hmem {changes : Json.Object} {v : Json} (hv : changes.last? { wire := name } = some v) :
      name ∈ (toWire fields changes).names := by
    obtain ⟨m, hm, rfl⟩ := List.mem_map.mp (Json.Object.mem_names_of_last? hv)
    rw [Json.Object.names, toWire, List.map_map]
    exact List.mem_map.mpr ⟨m, hm, wireName_of_isUndeclared hname⟩
  exact last?_append_comm fun v w hp hq => h name (hmem hp) (hmem hq)

theorem Separate.revised_comm (hfields : Unambiguous fields) {old new : Record fields} :
    Revised (p ++ q) fields old new ↔ Revised (q ++ p) fields old new :=
  revised_congr fun _ hf => h.last?_field hfields hf

end Separate

end Record
end MailTemplate
