import MailTemplate.Json.Reader
import MailTemplate.Pixels

/-!
# Values that can be written

A value can be written if each integer in it has a text. That is so of every value that is read from
a text, since the same number of digits is the limit for both.

* `Text.ofInteger?_eq_none_iff` and `isSome_ofInteger?_digitsValue`: integers with and without a text;
* `Json.Writable`: the values that can be written, with one rule for each sort of value;
* `Json.isSome_display?`, `isSome_css?` and `Pixels.isSome_css?`: what is shown of them;
* `Json.writable_of_read?` and `Received.writable`: values that are read from a text, and their parts.
-/

namespace MailTemplate

/-! ### Integers -/

namespace Text

theorem ofInteger?_eq_none_iff {n : Int} :
    ofInteger? n = none ↔ digitsLimit < (Nat.toDigits 10 n.natAbs).length := by
  simp [ofInteger?]

theorem isSome_ofInteger?_iff {n : Int} :
    (ofInteger? n).isSome = true ↔ (Nat.toDigits 10 n.natAbs).length ≤ digitsLimit := by
  simp [ofInteger?]

/-- One more digit at the end. -/
theorem length_toDigits_append_digit (n : Nat) {d : Nat} (hd : d < 10) :
    (Nat.toDigits 10 (10 * n + d)).length ≤ (Nat.toDigits 10 n).length + 1 := by
  have hone : (Nat.toDigits 10 d).length = 1 := by rw [Nat.toDigits_of_lt_base hd]; rfl
  rcases Nat.eq_zero_or_pos n with rfl | hn
  · rw [Nat.mul_zero, Nat.zero_add, hone]
    exact Nat.le_add_left 1 _
  · have hlength : (Nat.toDigits 10 (10 * n + d)).length = (Nat.toDigits 10 n).length + 1 := by
      rw [← Nat.toDigits_append_toDigits (by decide) hn hd, List.length_append, hone]
    exact Nat.le_of_eq hlength

theorem toNat_sub_lt_of_isDigit {c : Char} (hc : c.isDigit = true) :
    c.toNat - '0'.toNat < 10 := by
  have hhigh : c.toNat ≤ 57 := (Char.isDigit_iff_toNat.mp hc).2
  have hzero : '0'.toNat = 48 := rfl
  omega

theorem length_toDigits_foldl {digits : List Char} (h : ∀ c ∈ digits, c.isDigit = true) (n : Nat) :
    (Nat.toDigits 10 (digits.foldl (fun n c => 10 * n + (c.toNat - '0'.toNat)) n)).length ≤
      (Nat.toDigits 10 n).length + digits.length := by
  induction digits generalizing n with
  | nil => exact Nat.le_refl _
  | cons c digits ih =>
    obtain ⟨hc, hdigits⟩ := List.forall_mem_cons.mp h
    have hfirst := length_toDigits_append_digit n (toNat_sub_lt_of_isDigit hc)
    have hrest := ih hdigits (10 * n + (c.toNat - '0'.toNat))
    rw [List.foldl_cons, List.length_cons]
    omega

/-- The number that digits stand for has no more digits. -/
theorem length_toDigits_digitsValue {digits : List Char} (hne : digits ≠ [])
    (h : ∀ c ∈ digits, c.isDigit = true) :
    (Nat.toDigits 10 (digitsValue digits)).length ≤ digits.length := by
  cases digits with
  | nil => contradiction
  | cons c digits =>
    obtain ⟨hc, hdigits⟩ := List.forall_mem_cons.mp h
    have hlt := toNat_sub_lt_of_isDigit hc
    have hone : (Nat.toDigits 10 (10 * 0 + (c.toNat - '0'.toNat))).length = 1 := by
      rw [Nat.mul_zero, Nat.zero_add, Nat.toDigits_of_lt_base hlt]
      rfl
    have hrest := length_toDigits_foldl hdigits (10 * 0 + (c.toNat - '0'.toNat))
    rw [digitsValue, List.foldl_cons, List.length_cons]
    omega

/-- An integer with a sign and digits that are not too many has a text. -/
theorem isSome_ofInteger?_digitsValue {digits : List Char} (hne : digits ≠ [])
    (h : ∀ c ∈ digits, c.isDigit = true) (hlimit : digits.length ≤ digitsLimit) (negative : Bool) :
    (ofInteger? (if negative then -(digitsValue digits : Int) else digitsValue digits)).isSome =
      true := by
  have habs : (if negative then -(digitsValue digits : Int) else digitsValue digits).natAbs =
      digitsValue digits := by
    cases negative with
    | true => rw [if_pos rfl, Int.natAbs_neg, Int.natAbs_natCast]
    | false => exact Int.natAbs_natCast _
  rw [isSome_ofInteger?_iff, habs]
  exact Nat.le_trans (length_toDigits_digitsValue hne h) hlimit

end Text

/-! ### Values -/

namespace Json

/-- A value in which every integer has a text. -/
def Writable (v : Json) : Prop := v.literal?.isSome = true

@[simp] theorem writable_null : Writable .null := rfl

@[simp] theorem writable_bool (b : Bool) : Writable (.bool b) := rfl

@[simp] theorem writable_float (x : Binary64) : Writable (.float x) := rfl

@[simp] theorem writable_str (s : String) : Writable (.str s) := rfl

theorem writable_int_iff {n : Int} : Writable (.int n) ↔ (Text.ofInteger? n).isSome = true := by
  rw [Writable, literal?]

theorem isSome_literals?_iff {items : List Json} :
    (literals? items).isSome = true ↔ ∀ v ∈ items, v.Writable := by
  induction items with
  | nil => simp [literals?]
  | cons v items ih =>
    rw [List.forall_mem_cons, ← ih, Writable, literals?]
    cases literal? v <;> cases literals? items <;> simp

theorem isSome_memberLiterals?_iff {members : Object} :
    (memberLiterals? members).isSome = true ↔ ∀ m ∈ members, m.2.Writable := by
  induction members with
  | nil => simp [memberLiterals?]
  | cons m members ih =>
    obtain ⟨name, v⟩ := m
    rw [List.forall_mem_cons, ← ih, Writable, memberLiterals?]
    cases literal? v <;> cases memberLiterals? members <;> simp

theorem writable_arr_iff {items : List Json} : Writable (.arr items) ↔ ∀ v ∈ items, v.Writable := by
  rw [Writable, literal?, Option.isSome_map, isSome_literals?_iff]

theorem writable_obj_iff {members : Object} :
    Writable (.obj members) ↔ ∀ m ∈ members, m.2.Writable := by
  rw [Writable, literal?, Option.isSome_map, isSome_memberLiterals?_iff]

@[simp] theorem writable_texts (items : List String) : Writable (.arr (items.map .str)) :=
  writable_arr_iff.mpr (List.forall_mem_map.mpr fun s _ => writable_str s)

theorem writable_getD {held : Option Json} (hheld : ∀ v, held = some v → v.Writable) {default : Json}
    (hdefault : default.Writable) : (held.getD default).Writable := by
  cases held with
  | none => exact hdefault
  | some v => exact hheld v rfl

/-! ### What is shown -/

variable {v : Json}

theorem isSome_display? : v.display?.isSome = true ↔ v.Writable := by
  cases v <;> simp [display?, Writable, literal?]

theorem isSome_css? : v.css?.isSome = true ↔ v.Writable := by
  cases v with
  | int n => rw [css?, Pixels.css?, Option.isSome_map, writable_int_iff]
  | str s => simp [css?]
  | float x => simp [css?, Pixels.css?]
  | _ => simp only [css?, Option.isSome_map, isSome_display?]

end Json

theorem Pixels.isSome_css? {p : Pixels} : p.css?.isSome = true ↔ p.toJson.Writable := by
  cases p with
  | int n => rw [css?, Option.isSome_map, toJson, Json.writable_int_iff]
  | float x => simp [css?, toJson]
  | text s => simp [css?, toJson]

/-! ### Members of objects -/

namespace Json.Object

variable {o p : Object}

theorem writable_put (ho : ∀ m ∈ o, m.2.Writable) (name : String) {v : Json} (hv : v.Writable) :
    ∀ m ∈ o.put name v, m.2.Writable := by
  induction o with
  | nil => exact List.forall_mem_singleton.mpr hv
  | cons m o ih =>
    obtain ⟨n, w⟩ := m
    obtain ⟨hw, ho⟩ := List.forall_mem_cons.mp ho
    rw [put]
    split
    · exact List.forall_mem_cons.mpr ⟨hv, ho⟩
    · exact List.forall_mem_cons.mpr ⟨hw, ih ho⟩

theorem writable_merge (ho : ∀ m ∈ o, m.2.Writable) (hp : ∀ m ∈ p, m.2.Writable) :
    ∀ m ∈ o.merge p, m.2.Writable := by
  induction p generalizing o with
  | nil => exact ho
  | cons m p ih =>
    obtain ⟨hm, hp⟩ := List.forall_mem_cons.mp hp
    exact ih (writable_put ho m.1 hm) hp

end Json.Object

/-! ### Values that are read from a text -/

namespace Json

theorem writable_of_number? {cs : List Char} {v : Json} (h : number? cs = some v) : v.Writable := by
  simp only [number?] at h
  generalize (if cs.head? = some '-' then cs.drop 1 else cs) = body at h
  split at h
  · contradiction
  · rename_i hwhole
    split at h
    · split at h
      · rename_i hlimit
        have hne : body.takeWhile Char.isDigit ≠ [] := by
          intro hempty
          simp [hempty] at hwhole
        have hall : (body.takeWhile Char.isDigit).all Char.isDigit = true := List.all_takeWhile
        have hsome := Text.isSome_ofInteger?_digitsValue hne (List.all_eq_true.mp hall) hlimit
          (cs.head? = some '-')
        rw [← Option.some.inj h, writable_int_iff]
        simpa using hsome
      · contradiction
    · split at h
      · contradiction
      · obtain ⟨exponent, -, hv⟩ := Option.bind_eq_some_iff.mp h
        rw [← Option.some.inj hv]
        exact writable_float _
    · obtain ⟨exponent, -, hv⟩ := Option.bind_eq_some_iff.mp h
      rw [← Option.some.inj hv]
      exact writable_float _

theorem writable_of_scalar? {cs : List Char} {v : Json} (h : scalar? cs = some v) :
    v.Writable := by
  unfold scalar? at h
  split at h
  · cases h
    exact writable_null
  · cases h
    exact writable_bool true
  · cases h
    exact writable_bool false
  · cases h
    exact writable_float _
  · cases h
    exact writable_float _
  · cases h
    exact writable_float _
  · exact writable_of_number? h

/-- What each step of a fold preserves holds at its end. -/
theorem foldlM_preserves {α β : Type} {P : β → Prop} {f : β → α → Option β} {items : List α}
    {b c : β} (hf : ∀ a ∈ items, ∀ {b c : β}, P b → f b a = some c → P c) (hb : P b)
    (h : items.foldlM f b = some c) : P c := by
  induction items generalizing b with
  | nil =>
    rw [List.foldlM_nil] at h
    exact Option.some.inj h ▸ hb
  | cons a items ih =>
    rw [List.foldlM_cons] at h
    obtain ⟨next, hnext, h⟩ := Option.bind_eq_some_iff.mp h
    obtain ⟨ha, hitems⟩ := List.forall_mem_cons.mp hf
    exact ih hitems (ha hb hnext) h

/-- A token that is no value that cannot be written. -/
def Token.Writable : Token → Prop
  | .scalar v => v.Writable
  | _ => True

namespace Scan

/-- All tokens so far can be written. -/
def Writable (s : Scan) : Prop := ∀ t ∈ s.tokens, t.Writable

theorem writable_idle {tokens : List Token} (h : ∀ t ∈ tokens, t.Writable) (c : Char) :
    (idle tokens c).Writable := by
  unfold idle
  split
  · exact h
  · split
    · exact h
    · split
      · rename_i t ht
        refine List.forall_mem_cons.mpr ⟨?_, h⟩
        unfold punctuation? at ht
        split at ht <;> cases ht <;> trivial
      · exact h

theorem writable_step {s s' : Scan} {c : Char} (hs : s.Writable) (h : s.step c = some s') :
    s'.Writable := by
  unfold step at h
  split at h
  · cases h
    exact writable_idle hs c
  · split at h
    · obtain ⟨v, hv, rfl⟩ := Option.map_eq_some_iff.mp h
      have hscalar : (Token.scalar v).Writable := writable_of_scalar? hv
      exact writable_idle (List.forall_mem_cons.mpr ⟨hscalar, hs⟩) c
    · cases h
      exact hs
  · split at h
    · obtain ⟨cs, -, rfl⟩ := Option.map_eq_some_iff.mp h
      exact List.forall_mem_cons.mpr ⟨writable_str _, hs⟩
    · split at h <;> cases h <;> exact hs
  · split at h
    · cases h
      exact hs
    · obtain ⟨u, -, rfl⟩ := Option.map_eq_some_iff.mp h
      exact hs
  · obtain ⟨d, -, rfl⟩ := Option.map_eq_some_iff.mp h
    split <;> exact hs

theorem writable_finish {s : Scan} (hs : s.Writable) {tokens : List Token}
    (h : s.finish = some tokens) : ∀ t ∈ tokens, t.Writable := by
  unfold finish at h
  split at h
  · cases h
    exact fun t ht => hs t (List.mem_reverse.mp ht)
  · obtain ⟨v, hv, rfl⟩ := Option.map_eq_some_iff.mp h
    have hscalar : (Token.scalar v).Writable := writable_of_scalar? hv
    exact fun t ht => List.forall_mem_cons.mpr ⟨hscalar, hs⟩ t (List.mem_reverse.mp ht)
  · contradiction

end Scan

theorem writable_of_tokens? {cs : List Char} {tokens : List Token} (h : tokens? cs = some tokens) :
    ∀ t ∈ tokens, t.Writable := by
  obtain ⟨s, hs, hfinish⟩ := Option.bind_eq_some_iff.mp h
  have hstart : Scan.Writable ⟨.idle, []⟩ := List.forall_mem_nil _
  have hend : s.Writable := foldlM_preserves (fun _ _ => Scan.writable_step) hstart hs
  exact Scan.writable_finish hend hfinish

/-- The values of a frame can be written. -/
def Frame.Writable : Frame → Prop
  | .array items => ∀ v ∈ items, v.Writable
  | .member members _ => ∀ m ∈ members, m.2.Writable

namespace Reading

/-- All values so far can be written. -/
def Writable : Reading → Prop
  | .value around _ => ∀ f ∈ around, f.Writable
  | .name around members _ => (∀ m ∈ members, m.2.Writable) ∧ ∀ f ∈ around, f.Writable
  | .colon around members _ => (∀ m ∈ members, m.2.Writable) ∧ ∀ f ∈ around, f.Writable
  | .complete around v => v.Writable ∧ ∀ f ∈ around, f.Writable

theorem writable_step {r r' : Reading} {t : Token} (ht : t.Writable) (hr : r.Writable)
    (h : r.step t = some r') : r'.Writable := by
  unfold step at h
  split at h <;> cases h
  -- a scalar, and arrays and objects that begin or have nothing in them
  · exact ⟨ht, hr⟩
  · exact List.forall_mem_cons.mpr ⟨List.forall_mem_nil _, hr⟩
  · exact ⟨List.forall_mem_nil _, hr⟩
  · exact ⟨writable_arr_iff.mpr (List.forall_mem_nil _), (List.forall_mem_cons.mp hr).2⟩
  · exact hr
  · exact ⟨writable_obj_iff.mpr (List.forall_mem_nil _), hr.2⟩
  · exact List.forall_mem_cons.mpr hr
  -- a value that is complete goes into the frame around it
  · obtain ⟨hv, hframe, haround⟩ := hr.imp_right List.forall_mem_cons.mp
    exact List.forall_mem_cons.mpr ⟨List.forall_mem_cons.mpr ⟨hv, hframe⟩, haround⟩
  · obtain ⟨hv, hframe, haround⟩ := hr.imp_right List.forall_mem_cons.mp
    refine ⟨writable_arr_iff.mpr fun w hw => ?_, haround⟩
    exact List.forall_mem_cons.mpr ⟨hv, hframe⟩ w (List.mem_reverse.mp hw)
  · obtain ⟨hv, hframe, haround⟩ := hr.imp_right List.forall_mem_cons.mp
    exact ⟨Object.writable_put hframe _ hv, haround⟩
  · obtain ⟨hv, hframe, haround⟩ := hr.imp_right List.forall_mem_cons.mp
    exact ⟨writable_obj_iff.mpr (Object.writable_put hframe _ hv), haround⟩

theorem writable_finish {r : Reading} (hr : r.Writable) {v : Json} (h : r.finish = some v) :
    v.Writable := by
  unfold finish at h
  split at h <;> cases h
  exact hr.1

end Reading

/-- Integers of too many digits are not read, so that the value of a text can be written. -/
theorem writable_of_read? {s : String} {v : Json} (h : read? s = some v) : v.Writable := by
  obtain ⟨tokens, htokens, h⟩ := Option.bind_eq_some_iff.mp h
  obtain ⟨r, hr, hfinish⟩ := Option.bind_eq_some_iff.mp h
  have hstart : (Reading.value [] false).Writable := List.forall_mem_nil _
  have hall := writable_of_tokens? htokens
  have hend : r.Writable :=
    foldlM_preserves (fun t ht => Reading.writable_step (hall t ht)) hstart hr
  exact Reading.writable_finish hend hfinish

/-- A value that has been read from a text, or a part of one. -/
inductive Received : Json → Prop
  | read {text : String} {v : Json} (h : read? text = some v) : Received v
  | item {items : List Json} {v : Json} (h : Received (.arr items)) (hv : v ∈ items) : Received v
  | member {o : Object} {m : String × Json} (h : Received (.obj o)) (hm : m ∈ o) : Received m.2

theorem Received.writable {v : Json} (h : v.Received) : v.Writable := by
  induction h with
  | read h => exact writable_of_read? h
  | item _ hv ih => exact writable_arr_iff.mp ih _ hv
  | member _ hm ih => exact writable_obj_iff.mp ih _ hm

end Json
end MailTemplate
