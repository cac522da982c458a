import MailTemplate.Checked
import MailTemplate.Failure

/-!
# When a checked value is there

A checked value that is made of parts is there exactly if its parts are.

* `map_eq_ok`, `map_some_eq_ok` and `bind_eq_ok`: results of functions;
* `Checked.under_eq_ok`, `both_eq_ok` and `orInvalid_eq_ok`: parts of larger values;
* `isOk_map`, `Checked.isOk_under` and `isOk_both`: whether there is one at all;
* `Kind.resolve_eq_ok` and `Json.namedValues_eq_ok`: which values name a kind, and which give values
  by name.
-/

namespace MailTemplate

section Except

variable {ε α β : Type} {x : Except ε α} {b : β}

@[simp] theorem map_eq_ok {f : α → β} : x.map f = .ok b ↔ ∃ a, x = .ok a ∧ f a = b := by
  cases x <;> simp [Except.map]

@[simp] theorem bind_eq_ok {f : α → Except ε β} :
    x.bind f = .ok b ↔ ∃ a, x = .ok a ∧ f a = .ok b := by
  cases x <;> simp [Except.bind]

@[simp] theorem isOk_map {f : α → β} : (x.map f).isOk = x.isOk := by
  cases x <;> rfl

theorem isOk_iff : x.isOk = true ↔ ∃ a, x = .ok a := by
  cases x <;> simp [Except.isOk, Except.toBool]

theorem map_some_eq_ok {x : Except ε β} : x.map some = .ok (some b) ↔ x = .ok b := by
  rw [map_eq_ok]
  simp

end Except

namespace Checked

variable {α β : Type}

@[simp] theorem under_eq_ok {step : PathStep} {c : Checked α} {a : α} :
    c.under step = .ok a ↔ c = .ok a := by
  cases c <;> simp [under]

@[simp] theorem both_eq_ok {c : Checked α} {d : Checked β} {p : α × β} :
    c.both d = .ok p ↔ c = .ok p.1 ∧ d = .ok p.2 := by
  obtain ⟨a, b⟩ := p
  cases c <;> cases d <;> simp [both]

@[simp] theorem orInvalid_eq_ok {model : String} {c : Checked α} {a : α} :
    c.orInvalid model = .ok a ↔ c = .ok a := by
  cases c <;> simp [orInvalid]

@[simp] theorem isOk_under {step : PathStep} {c : Checked α} : (c.under step).isOk = c.isOk := by
  cases c <;> rfl

@[simp] theorem isOk_both {c : Checked α} {d : Checked β} :
    (c.both d).isOk = (c.isOk && d.isOk) := by
  cases c <;> cases d <;> rfl

@[simp] theorem fail_ne_ok {fault : Fault} {a : α} : fail fault ≠ .ok a := fun h => (nomatch h)

end Checked

namespace Kind

theorem ofName?_eq_some {s : String} {kind : Kind} : ofName? s = some kind ↔ s = kind.name := by
  constructor
  · intro h
    have hname : kind.name = s := by simpa using List.find?_some h
    exact hname.symm
  · rintro rfl
    exact ofName?_name kind

theorem resolve_eq_ok {v : Json} {kind : Kind} : resolve v = .ok kind ↔ v = .str kind.name := by
  unfold resolve
  cases v with
  | str s =>
    simp only [Json.isScalar, Json.text?, ↓reduceIte, Option.bind_some, Json.str.injEq,
      ← ofName?_eq_some]
    cases ofName? s <;> simp
  | _ => simp [Json.isScalar, Json.text?]

theorem resolve_eq_error {v : Json} {failure : Failure} (h : resolve v = .error failure) :
    (v.isScalar = true ∧ failure = .unknownKind v) ∨
      (v.isScalar = false ∧ failure = .notScalar) := by
  unfold resolve at h
  split at h
  · rename_i hscalar
    split at h
    · contradiction
    · exact .inl ⟨hscalar, (Except.error.inj h).symm⟩
  · rename_i hscalar
    exact .inr ⟨Bool.not_eq_true _ ▸ hscalar, (Except.error.inj h).symm⟩

end Kind

theorem Json.namedValues_eq_ok {reserved : List String} {v : Json} {members : Object} :
    v.namedValues reserved = .ok members ↔
      v = .obj members ∧ ∀ name ∈ reserved, name ∉ members.names := by
  cases v with
  | obj values =>
    have hany : (values.any fun m => reserved.contains m.1) = true ↔
        ∃ name ∈ reserved, name ∈ Object.names values := by
      simp only [List.any_eq_true, List.contains_iff_mem, Object.names, List.mem_map]
      constructor
      · rintro ⟨m, hm, hname⟩
        exact ⟨m.1, hname, m, hm, rfl⟩
      · rintro ⟨_, hname, m, hm, rfl⟩
        exact ⟨m, hm, hname⟩
    simp only [namedValues, Json.obj.injEq]
    split
    · rename_i h
      obtain ⟨name, hreserved, hname⟩ := hany.mp h
      have hne : (.error .misnamed : Except Failure Object) ≠ .ok members := by simp
      rw [iff_false_left hne]
      rintro ⟨rfl, hfree⟩
      exact hfree name hreserved hname
    · rename_i h
      rw [Except.ok.injEq]
      constructor
      · rintro rfl
        exact ⟨rfl, fun name hreserved hname => h (hany.mpr ⟨name, hreserved, hname⟩)⟩
      · exact fun h => h.1
  | _ => simp [namedValues]

end MailTemplate
