import MailTemplate.Proofs.Document.Composition
import MailTemplate.Proofs.Document.Repair
import MailTemplate.Proofs.Json.Number

/-!
# The sizes of themes

A size of a theme may be given by any number. It is moved within the bounds, but only after it has
been read as an integer, so that some numbers are refused.

* `Theme.Size`: the fields of a theme that are bounded integers;
* `Theme.Numeric` and `Theme.Clamps`: numbers that are given for the sizes, and what becomes of
  them;
* `Theme.clamps_read` and `clamps_revise`: themes that are read or changed;
* `Document.map_restyle_eq_ok` and `map_load_eq_ok`: the themes of documents;
* `Document.sizes_clamped`, and `large_float_refused`: a number that is refused.
-/

namespace MailTemplate

/-- The value of the member that holds a field. -/
def Json.Object.held? (o : Json.Object) (field : FieldName) : Option Json :=
  (o.find? field).map (·.2)

theorem Json.Object.optional_eq_ok {α : Type} {o : Json.Object} {field : FieldName} {default a : α}
    {read : Json → Checked α} :
    o.optional field default read = .ok a ↔
      match o.held? field with
      | some v => read v = .ok a
      | none => a = default := by
  unfold optional held?
  cases o.find? field with
  | none =>
    show Except.ok default = Except.ok a ↔ a = default
    rw [Except.ok.injEq, eq_comm]
  | some m => exact Checked.under_eq_ok

theorem Bounded.cast_clamp (bounds : Bounds) (n : Int) :
    ((clamp bounds n).val : ℚ) = min (max (n : ℚ) bounds.low) bounds.high := by
  simp [clamp]

namespace Theme

/-- The fields of a theme that are bounded integers. -/
inductive Size
  | contentWidth
  | borderRadius

namespace Size

/-- The names of a size. -/
def name : Size → FieldName
  | contentWidth => ⟨"contentWidth", "content_width"⟩
  | borderRadius => ⟨"borderRadius", "border_radius"⟩

/-- The bounds of a size. -/
def bounds : Size → Bounds
  | contentWidth => contentWidthBounds
  | borderRadius => borderRadiusBounds

/-- The size of a theme. -/
def of : (size : Size) → Theme → Bounded size.bounds
  | contentWidth, t => t.contentWidth
  | borderRadius, t => t.borderRadius

/-- The declared field of a size. -/
def field (size : Size) : Field := ⟨size.name, .within size.bounds⟩

theorem field_mem (size : Size) : size.field ∈ fields := by
  cases size <;> simp [field, name, bounds]

end Size

/-- All fields but the sizes are texts. -/
theorem eq_text_or_size {f : Field} (h : f ∈ fields) :
    f.type = .text ∨ ∃ size : Size, f = size.field := by
  simp only [fields, List.mem_cons, List.not_mem_nil, or_false] at h
  rcases h with rfl | rfl | rfl | rfl | rfl | rfl | rfl | rfl
  · exact .inl rfl
  · exact .inl rfl
  · exact .inl rfl
  · exact .inl rfl
  · exact .inl rfl
  · exact .inr ⟨.contentWidth, rfl⟩
  · exact .inr ⟨.borderRadius, rfl⟩
  · exact .inl rfl

/-- Values for the fields of a theme: numbers for the sizes, and texts for all others. -/
structure Numeric (given : FieldName → Option Json) : Prop where
  texts : ∀ f ∈ fields, f.type = .text → ∀ v, given f.name = some v → ∃ s, v = .str s
  numbers : ∀ size : Size, ∀ v, given size.name = some v → ∃ q, v.rational? = some q

/-- What becomes of numbers that are given for the sizes of a theme. They are taken if all of them
count as integers, and only then; each size is then the number nearest to the given one that is
within the bounds. A size that is not given is that of an older theme. -/
structure Clamps {ε : Type} (given : FieldName → Option Json) (old : Theme)
    (result : Except ε Theme) : Prop where
  isOk_iff : result.isOk = true ↔ ∀ size : Size, ∀ v, given size.name = some v → v.IsWhole
  nearest : ∀ t, result = .ok t → ∀ size : Size, ∀ v q, given size.name = some v →
    v.rational? = some q → ((size.of t).val : ℚ) = min (max q size.bounds.low) size.bounds.high
  kept : ∀ t, result = .ok t → ∀ size : Size, given size.name = none → size.of t = size.of old

section Given

variable {given : FieldName → Option Json} {old t : Theme}

/-- Numbers are the only values that can fail to be read. -/
theorem Numeric.forall_isOk_iff (h : Numeric given) :
    (∀ f ∈ fields, ∀ v, given f.name = some v → (f.type.read v).isOk = true) ↔
      ∀ size : Size, ∀ v, given size.name = some v → v.IsWhole := by
  have hsize (size : Size) {v : Json} (hv : given size.name = some v) :
      (size.field.type.read v).isOk = true ↔ v.IsWhole := by
    obtain ⟨q, hq⟩ := h.numbers size v hv
    exact (Bool.eq_iff_iff.mp isOk_map).trans (Json.isOk_asInteger_iff hq)
  constructor
  · exact fun hall size v hv => (hsize size hv).mp (hall _ size.field_mem v hv)
  · intro hwhole f hf v hv
    rcases eq_text_or_size hf with htext | ⟨size, rfl⟩
    · obtain ⟨s, rfl⟩ := h.texts f hf htext v hv
      rw [htext]
      rfl
    · exact (hsize size hv).mpr (hwhole size v hv)

/-- A theme has the sizes that are given, and those of an older theme otherwise. -/
def Sized (given : FieldName → Option Json) (old t : Theme) : Prop :=
  ∀ size : Size,
    match given size.name with
    | some v => (FieldType.within size.bounds).read v = .ok (size.of t)
    | none => size.of t = size.of old

/-- Numbers are dealt with as they should be where a theme is made of them exactly if all values can
be read, and has the sizes that are read. -/
theorem Numeric.clamps {ε : Type} {result : Except ε Theme} (h : Numeric given)
    (hisOk : result.isOk = true ↔
      ∀ f ∈ fields, ∀ v, given f.name = some v → (f.type.read v).isOk = true)
    (hsized : ∀ t, result = .ok t → Sized given old t) : Clamps given old result where
  isOk_iff := hisOk.trans h.forall_isOk_iff
  nearest := by
    intro t ht size v q hv hq
    have hsize := hsized t ht size
    rw [hv] at hsize
    obtain ⟨n, hn, hclamp⟩ := map_eq_ok.mp hsize
    obtain ⟨rfl, -⟩ := (Json.asInteger_eq_ok_iff hq).mp hn
    rw [← hclamp, Bounded.cast_clamp]
  kept := by
    intro t ht size hnone
    have hsize := hsized t ht size
    rwa [hnone] at hsize

end Given

/-! ### Themes that are read or changed -/

section Fields

variable {o p : Json.Object} {t u : Theme}

/-- Members that are numbers under the names of sizes are such values. -/
theorem numeric_held (h : ∀ m ∈ o, ∃ size : Size, size.name.Denotes m.1 ∧
    ∃ q, m.2.rational? = some q) : Numeric o.held? := by
  have hmember {field : FieldName} {v : Json} (hv : o.held? field = some v) :
      ∃ m ∈ o, field.Denotes m.1 ∧ m.2 = v := by
    obtain ⟨m, hm, rfl⟩ := Option.map_eq_some_iff.mp hv
    exact ⟨m, Json.Object.mem_of_find? hm, Json.Object.name_of_find? hm, rfl⟩
  refine ⟨fun f hf htext v hv => ?_, fun size v hv => ?_⟩
  · -- the name of a size denotes no text
    obtain ⟨m, hm, hname, -⟩ := hmember hv
    obtain ⟨size, hsize, -⟩ := h m hm
    rw [unambiguous f hf size.field size.field_mem m.1 hname hsize] at htext
    contradiction
  · obtain ⟨m, hm, -, rfl⟩ := hmember hv
    obtain ⟨_, -, hq⟩ := h m hm
    exact hq

theorem sized_read (h : read (.obj o) = .ok t) : Sized o.held? standard t := by
  obtain ⟨record, hrecord, rfl⟩ := map_eq_ok.mp h
  simp only [fields, Record.read, Checked.both_eq_ok] at hrecord
  obtain ⟨-, -, -, -, -, hwidth, hradius, -⟩ := hrecord
  intro size
  cases size with
  | contentWidth => exact Json.Object.optional_eq_ok.mp hwidth
  | borderRadius => exact Json.Object.optional_eq_ok.mp hradius

theorem sized_revise (h : t.revise p = .ok u) : Sized (fun field => p.last? field) t u := by
  obtain ⟨-, -, -, -, -, hwidth, hradius, -⟩ := revise_eq_ok.mp h
  intro size
  cases size with
  | contentWidth => exact hwidth
  | borderRadius => exact hradius

/-- Numbers that are given for sizes when a theme is read. -/
theorem clamps_read (h : Numeric o.held?) : Clamps o.held? standard (read (.obj o)) := by
  refine h.clamps ?_ fun t => sized_read
  have hread : (read (.obj o)).isOk = (Record.read fields standard.toRecord o).isOk := isOk_map
  rw [hread, Record.isOk_read]
  simp only [Json.Object.held?, Option.map_eq_some_iff]
  refine forall₂_congr fun f _ => ⟨?_, fun hall m hm => hall m.2 ⟨m, hm, rfl⟩⟩
  rintro hall _ ⟨m, hm, rfl⟩
  exact hall m hm

/-- Numbers that are given for sizes when a theme is changed. -/
theorem clamps_revise (h : Numeric fun field => p.last? field) (t : Theme) :
    Clamps (fun field => p.last? field) t (t.revise p) := by
  refine h.clamps ?_ fun u => sized_revise
  rw [isOk_iff, ← Record.exists_revised t.toRecord]
  simp only [revise_eq_ok]
  exact ⟨fun ⟨u, hu⟩ => ⟨u.toRecord, hu⟩, fun ⟨record, hrecord⟩ => ⟨ofRecord record, hrecord⟩⟩

/-- The same themes come of results that are there for the same themes. -/
theorem Clamps.of_eq_ok_iff {ε ε' : Type} {given : FieldName → Option Json} {old : Theme}
    {result : Except ε Theme} {result' : Except ε' Theme} (h : Clamps given old result)
    (hiff : ∀ t, result' = .ok t ↔ result = .ok t) : Clamps given old result' where
  isOk_iff := by
    rw [← h.isOk_iff, MailTemplate.isOk_iff, MailTemplate.isOk_iff]
    exact exists_congr hiff
  nearest t ht := h.nearest t ((hiff t).mp ht)
  kept t ht := h.kept t ((hiff t).mp ht)

end Fields
end Theme

/-! ### Documents -/

namespace Stored

variable {o stored : Json.Object} {name : String}

theorem themeOf_of_find? (h : stored.find? Document.themeName = some (name, .obj o)) :
    themeOf stored = .obj o := by
  unfold themeOf
  rw [h]
  cases o <;> rfl

end Stored

namespace Document

variable {settings : Settings} {source : IdSource} {d e : Document} {o plain stored : Json.Object}

theorem map_restyle_eq_ok {t : Theme} :
    (d.restyle o).map (·.theme) = .ok t ↔ d.theme.revise o = .ok t := by
  simp only [map_eq_ok, restyle_eq_ok_iff]
  constructor
  · rintro ⟨_, ⟨u, hu, rfl⟩, rfl⟩
    exact hu
  · exact fun ht => ⟨_, ⟨t, ht, rfl⟩, rfl⟩

/-- A document that can be loaded still can be with another theme, if this theme can be read. -/
theorem map_load_eq_ok (h : (load settings (.obj plain) source).result = .ok e)
    (hblocks : Stored.member stored "blocks" = Stored.member plain "blocks") {t : Theme} :
    (load settings (.obj stored) source).result.map (·.theme) = .ok t ↔
      Theme.read (Stored.themeOf stored) = .ok t := by
  obtain ⟨o, items, r, rest, hplain, hitems, hrepair, hread, -⟩ := exists_repair_of_load h
  obtain rfl := Json.obj.inj hplain
  rw [← hblocks] at hitems
  obtain ⟨hread, -, hnodup⟩ := ofObject_members_eq_ok.mp hread
  have hload : (load settings (.obj stored) source).result =
      (ofObject settings [("blocks", .arr r.blocks), ("designSettings", Stored.themeOf stored)]
        r.source).1.orInvalid model := by
    simp only [load, hitems, hrepair]
  rw [hload, map_eq_ok]
  simp only [Checked.orInvalid_eq_ok]
  constructor
  · rintro ⟨d, hd, rfl⟩
    exact (ofObject_members_eq_ok.mp (Prod.ext hd rfl)).2.1
  · intro ht
    have hdone : ofObject settings
        [("blocks", .arr r.blocks), ("designSettings", Stored.themeOf stored)] r.source =
          (.ok { e with theme := t }, rest) :=
      ofObject_members_eq_ok.mpr ⟨hread, ht, hnodup⟩
    exact ⟨_, congrArg Prod.fst hdone, rfl⟩

/-- Numbers that are given for the sizes of a theme are moved within the bounds when the theme is
read, changed, or loaded with a stored document that can be loaded without it, provided that they
are integers, of any size, or floating-point numbers that are integers below `2 ^ 63` in size. Any
other number is refused: the theme is neither read nor changed, and the document is not loaded. -/
theorem sizes_clamped (settings : Settings) (source : IdSource) (d : Document)
    (o stored : Json.Object) :
    (Theme.Numeric o.held? → Theme.Clamps o.held? .standard (Theme.read (.obj o))) ∧
    (Theme.Numeric (fun field => o.last? field) →
      Theme.Clamps (fun field => o.last? field) d.theme ((d.restyle o).map (·.theme))) ∧
    (Theme.Numeric o.held? → ∀ name, stored.find? themeName = some (name, .obj o) →
      let plain := stored.filter fun m => !decide (themeName.Denotes m.1)
      let result := (load settings (.obj stored) source).result
      (load settings (.obj plain) source).result.isOk = true →
      Theme.Clamps o.held? .standard (result.map (·.theme))) := by
  refine ⟨Theme.clamps_read, ?_, ?_⟩
  · intro h
    exact (Theme.clamps_revise h d.theme).of_eq_ok_iff fun t => map_restyle_eq_ok
  · intro h name hfind plain result hplain
    obtain ⟨e, he⟩ := isOk_iff.mp hplain
    have hblocks : Stored.member stored "blocks" = Stored.member plain "blocks" := by
      have hkeep (v : Json) (_ : stored.get? "blocks" = some v) :
          (!decide (themeName.Denotes "blocks")) = true := by decide
      rw [Stored.member, Stored.member, Json.Object.get?_filter hkeep]
    refine (Theme.clamps_read h).of_eq_ok_iff fun t => ?_
    rw [map_load_eq_ok he hblocks, Stored.themeOf_of_find? hfind]

/-- The width 900.0 and a radius far below 0, under different sorts of names, are stored as 700 and
0. -/
theorem sizes_clamped_stored :
    let settings : Settings := ⟨2024, "", "", ""⟩
    let o : Json.Object :=
      [("content_width", .float ⟨0x408C200000000000⟩), ("borderRadius", .int (-10 ^ 30))]
    let stored : Json.Object :=
      [("theme", .obj o), ("blocks", .arr [.obj [("type", .str "spacer")]])]
    ∃ d, (load settings (.obj stored) ⟨[], 0⟩).result = .ok d ∧
      d.theme.contentWidth.val = 700 ∧ d.theme.borderRadius.val = 0 := by
  intro settings o stored
  have hwidth : o.held? Theme.Size.contentWidth.name = some (.float ⟨0x408C200000000000⟩) := rfl
  have hradius : o.held? Theme.Size.borderRadius.name = some (.int (-10 ^ 30)) := rfl
  have hvalue : (⟨0x408C200000000000⟩ : Binary64).value = (900 : Int) :=
    (Binary64.whole?_eq_some_iff (by decide)).mp (by decide)
  have hnumber : (Json.float ⟨0x408C200000000000⟩).rational? = some ((900 : Int) : ℚ) := by
    rw [Json.rational?, hvalue]
    rfl
  have hnumeric : Theme.Numeric o.held? := by
    refine Theme.numeric_held fun m hm => ?_
    rcases List.mem_pair.mp hm with rfl | rfl
    · exact ⟨.contentWidth, .inr rfl, _, hnumber⟩
    · exact ⟨.borderRadius, .inl rfl, _, rfl⟩
  have hwhole : ∀ size : Theme.Size, ∀ v, o.held? size.name = some v → v.IsWhole := by
    intro size v hv
    cases size with
    | contentWidth =>
      obtain rfl := Option.some.inj (hwidth.symm.trans hv)
      exact ⟨900, hvalue, by decide⟩
    | borderRadius =>
      obtain rfl := Option.some.inj (hradius.symm.trans hv)
      trivial
  have hclamps :=
    (sizes_clamped settings ⟨[], 0⟩ empty o stored).2.2 hnumeric "theme" rfl (by decide)
  have hisOk := hclamps.isOk_iff.mpr hwhole
  obtain ⟨t, ht⟩ := isOk_iff.mp hisOk
  obtain ⟨d, hd, rfl⟩ := map_eq_ok.mp ht
  refine ⟨d, hd, ?_, ?_⟩
  · have hnearest := hclamps.nearest _ ht .contentWidth _ _ hwidth hnumber
    exact Int.cast_inj.mp (hnearest.trans (Bounded.cast_clamp contentWidthBounds 900).symm)
  · have hnearest := hclamps.nearest _ ht .borderRadius _ _ hradius rfl
    exact Int.cast_inj.mp (hnearest.trans (Bounded.cast_clamp borderRadiusBounds (-10 ^ 30)).symm)

/-- A width of `1e20` is refused as a floating-point number, and moved within the bounds as an
integer. -/
theorem large_float_refused :
    let settings : Settings := ⟨2024, "", "", ""⟩
    let x : Binary64 := ⟨0x4415AF1D78B58C40⟩
    let o : Json.Object := [("contentWidth", .float x)]
    x.isFinite = true ∧ x.value = (10 ^ 20 : Int) ∧
      (Theme.read (.obj o)).isOk = false ∧
      (empty.restyle o).isOk = false ∧
      (load settings (.obj [("designSettings", .obj o)]) ⟨[], 0⟩).result.isOk = false ∧
      Theme.read (.obj [("contentWidth", .int (10 ^ 20))]) =
        .ok { Theme.standard with contentWidth := .clamp _ 700 } := by
  refine ⟨by decide, (Binary64.whole?_eq_some_iff (by decide)).mp (by decide), ?_, ?_, ?_, ?_⟩
  · decide
  · decide
  · decide
  · rfl

end Document
end MailTemplate
