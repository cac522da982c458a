import MailTemplate.Proofs.Document.Loading

/-!
# What can be repaired

Stored blocks are repaired whatever they hold, but for two faults. A type or an id that cannot be
looked up stops the loading, and an id that is neither a text nor an empty value is kept, so that
the document cannot be read afterwards.

* `Stored.Unsearchable` and `Stored.Misidentified`: the blocks with these faults;
* `Stored.Outcome` and `repairBlock_outcome`: all that can become of one more block;
* `Stored.Repair.Holds`: what is true of the blocks that have been kept, and `repairBlocks_spec`: a
  whole run of repairs;
* `Repair.Holds.isOk_ofObject`: when the kept blocks make a document;
* `Stored.Judgement` and `load_judgement`: what has become of a stored document;
* `Document.load_verdict`: when it is loaded, and which failure there is otherwise.
-/

namespace MailTemplate

variable {settings : Settings} {source rest : IdSource}

/-- Whether a value is a non-empty array or object. -/
def Json.isFilled : Json → Bool
  | .arr items => !items.isEmpty
  | .obj members => !members.isEmpty
  | _ => false

theorem Json.isFilled_eq (v : Json) : v.isFilled = (v.isTruthy && !v.isScalar) := by
  cases v <;> simp [isFilled, isTruthy, isScalar]

theorem Json.text?_eq_some {v : Json} {s : String} : v.text? = some s ↔ v = .str s := by
  cases v <;> simp [text?]

theorem Json.str_sameKey {s : String} {v : Json} : (str s).sameKey v = true ↔ v = .str s := by
  cases v with
  | float x => cases h : x.whole? <;> simp [sameKey, whole?, h]
  | _ => simp [sameKey, whole?, eq_comm]

namespace Stored

/-- The value of a member of a stored block, null for what is no object. -/
def memberOf (v : Json) (name : String) : Json :=
  match v with
  | .obj o => member o name
  | _ => .null

/-- A stored block of some kind. -/
def HasKind (v : Json) : Prop := ∃ kind ∈ Kind.all, memberOf v "type" = .str kind.name

/-- A stored block whose type cannot be looked up, or, if that is a kind, whose id cannot. -/
def Unsearchable (v : Json) : Prop :=
  (memberOf v "type").isFilled = true ∨ HasKind v ∧ (memberOf v "id").isFilled = true

/-- A stored block of some kind whose id is neither a text nor an empty value. -/
def Misidentified (v : Json) : Prop :=
  HasKind v ∧ (memberOf v "id").isTruthy = true ∧ (memberOf v "id").text? = none

instance : DecidablePred HasKind := fun v =>
  inferInstanceAs (Decidable (∃ kind ∈ Kind.all, memberOf v "type" = .str kind.name))

instance : DecidablePred Unsearchable := fun v =>
  inferInstanceAs (Decidable ((memberOf v "type").isFilled = true ∨
    HasKind v ∧ (memberOf v "id").isFilled = true))

instance : DecidablePred Misidentified := fun v =>
  inferInstanceAs (Decidable (HasKind v ∧ (memberOf v "id").isTruthy = true ∧
    (memberOf v "id").text? = none))

theorem HasKind.isTruthy_type {v : Json} (h : HasKind v) :
    (memberOf v "type").isTruthy = true := by
  obtain ⟨kind, -, htype⟩ := h
  rw [htype]
  cases kind <;> decide

theorem HasKind.isFilled_type {v : Json} (h : HasKind v) :
    (memberOf v "type").isFilled = false := by
  obtain ⟨kind, -, htype⟩ := h
  rw [htype]
  rfl

section OfKind

variable {kind : Kind} {o : Json.Object} (htype : member o "type" = .str kind.name)
include htype

theorem hasKind_of_type : HasKind (.obj o) := ⟨kind, kind.mem_all, htype⟩

theorem unsearchable_iff : Unsearchable (.obj o) ↔
    (member o "id").isTruthy = true ∧ (member o "id").isScalar = false := by
  have hkind := hasKind_of_type htype
  rw [Unsearchable, hkind.isFilled_type]
  simp [hkind, memberOf, Json.isFilled_eq]

theorem misidentified_iff : Misidentified (.obj o) ↔
    (member o "id").isTruthy = true ∧ (member o "id").text? = none := by
  simp [Misidentified, hasKind_of_type htype, memberOf]

end OfKind

/-! ### One block -/

variable {r r' : Repair} {kind : Kind} {o : Json.Object} {v : Json}

/-- What can become of one more stored block. -/
inductive Outcome (settings : Settings) (r : Repair) : Json → Repair × Option Failure → Prop
  | skipped {v : Json} (hkind : ¬HasKind v) (htype : (memberOf v "type").isFilled = false) :
      Outcome settings r v (r.skip (memberOf v "type"), none)
  | stopped {v : Json} (h : Unsearchable v) : Outcome settings r v (r, some .notScalar)
  | kept {kind : Kind} {o : Json.Object} (htype : member o "type" = .str kind.name)
      (htruthy : (member o "id").isTruthy = true) (hscalar : (member o "id").isScalar = true)
      (hnew : (r.seen.any (·.sameKey (member o "id"))) = false) :
      Outcome settings r (.obj o) (r.keep settings kind o (member o "id"), none)
  | given {kind : Kind} {o : Json.Object} (htype : member o "type" = .str kind.name)
      (hfalsy : (member o "id").isTruthy = false) :
      Outcome settings r (.obj o) (r.keepFresh settings kind o, none)
  | replaced {kind : Kind} {o : Json.Object} (htype : member o "type" = .str kind.name)
      (htruthy : (member o "id").isTruthy = true) (hscalar : (member o "id").isScalar = true)
      (hseen : (r.seen.any (·.sameKey (member o "id"))) = true) :
      Outcome settings r (.obj o)
        (Repair.keepFresh settings
          { r with warnings := r.warnings ++ [.replacedId (member o "id")] } kind o, none)

theorem keepBlock_outcome (htype : member o "type" = .str kind.name) :
    Outcome settings r (.obj o) (r.keepBlock settings kind o) := by
  unfold Repair.keepBlock
  by_cases htruthy : (member o "id").isTruthy = true
  · by_cases hscalar : (member o "id").isScalar = true
    · by_cases hseen : (r.seen.any (·.sameKey (member o "id"))) = true
      · simp only [htruthy, hscalar, hseen, Bool.not_true, Bool.false_eq_true, ↓reduceIte]
        exact .replaced htype htruthy hscalar hseen
      · simp only [htruthy, hscalar, hseen, Bool.not_true, Bool.false_eq_true, ↓reduceIte]
        exact .kept htype htruthy hscalar (Bool.not_eq_true _ ▸ hseen)
    · rw [Bool.not_eq_true] at hscalar
      simp only [htruthy, hscalar, Bool.not_true, Bool.not_false, Bool.false_eq_true, ↓reduceIte]
      exact .stopped ((unsearchable_iff htype).mpr ⟨htruthy, hscalar⟩)
  · rw [Bool.not_eq_true] at htruthy
    simp only [htruthy, Bool.not_false, ↓reduceIte]
    exact .given htype htruthy

theorem repairBlock_outcome (settings : Settings) (r : Repair) (v : Json) :
    Outcome settings r v (repairBlock settings r v) := by
  cases v with
  | obj o =>
    rw [repairBlock]
    by_cases htruthy : (member o "type").isTruthy = true
    · simp only [htruthy, Bool.not_true, Bool.false_eq_true, ↓reduceIte]
      cases hresolve : Kind.resolve (member o "type") with
      | ok kind => exact keepBlock_outcome (Kind.resolve_eq_ok.mp hresolve)
      | error failure =>
        have hkind : ¬HasKind (.obj o) := by
          rintro ⟨kind, -, htype⟩
          have hok : Kind.resolve (member o "type") = .ok kind := Kind.resolve_eq_ok.mpr htype
          rw [hok] at hresolve
          contradiction
        rcases Kind.resolve_eq_error hresolve with ⟨hscalar, rfl⟩ | ⟨hscalar, rfl⟩
        · refine .skipped hkind ?_
          simp [memberOf, Json.isFilled_eq, hscalar]
        · refine .stopped (.inl ?_)
          simp [memberOf, Json.isFilled_eq, htruthy, hscalar]
    · rw [Bool.not_eq_true] at htruthy
      simp only [htruthy, Bool.not_false, ↓reduceIte]
      refine .skipped (fun hkind => ?_) ?_
      · have htype := hkind.isTruthy_type
        rw [memberOf, htruthy] at htype
        contradiction
      · simp [memberOf, Json.isFilled_eq, htruthy]
  | _ => exact .skipped (fun hkind => Bool.false_ne_true hkind.isTruthy_type) rfl

/-- Only a block that cannot be looked up stops the repairs. -/
theorem Outcome.not_unsearchable (h : Outcome settings r v (r', none)) : ¬Unsearchable v := by
  intro hbad
  cases h with
  | skipped hkind htype =>
    rcases hbad with hfilled | ⟨hhas, -⟩
    · rw [htype] at hfilled
      contradiction
    · exact hkind hhas
  | kept htype _ hscalar | replaced htype _ hscalar =>
    simp [unsearchable_iff htype, hscalar] at hbad
  | given htype hfalsy =>
    simp [unsearchable_iff htype, hfalsy] at hbad

/-! ### The blocks that have been kept -/

/-- The content that is kept of a stored one can be read, whatever that was. -/
theorem isOk_read_keptContent (kind : Kind) (id content : Json) :
    (Attributes.read settings kind (.obj (keptContent settings kind id content).1)).isOk =
      true := by
  have hempty : (Attributes.read settings kind (.obj [])).isOk = true :=
    isOk_iff.mpr ⟨_, Attributes.ofObject_nil kind (kind.defaults settings)⟩
  cases content with
  | obj members =>
    have hread : (Record.read kind.fields (kind.defaults settings)
        (keptMembers settings kind id members).1).isOk = true := by
      rw [keptMembers_eq_filter, Record.isOk_read]
      intro f hf m hm
      have hkept := (List.mem_filter.mp (Json.Object.mem_of_find? hm)).2
      exact (isKept_iff.mp hkept).2 f hf (Json.Object.name_of_find? hm)
    have hobject : (Attributes.ofObject kind (kind.defaults settings)
        (keptMembers settings kind id members).1).isOk = true := by
      rwa [Attributes.ofObject, isOk_map]
    exact hobject
  | _ => exact hempty

/-- A block that has been kept. -/
structure Entry where
  id : Json
  kind : Kind
  content : Json.Object

/-- A kept block as JSON. -/
def Entry.toJson (e : Entry) : Json :=
  .obj [("id", e.id), ("type", .str e.kind.name), ("content", .obj e.content)]

/-- The blocks that have been kept have ids, of which no text stands twice, and contents that can be
read. -/
structure Repair.Holds (settings : Settings) (r : Repair) (entries : List Entry) : Prop where
  blocks : r.blocks = entries.map Entry.toJson
  seen : r.seen = entries.map (·.id)
  truthy : ∀ e ∈ entries, e.id.isTruthy = true
  readable : ∀ e ∈ entries, (Attributes.read settings e.kind (.obj e.content)).isOk = true
  nodup : (r.seen.filterMap Json.text?).Nodup

/-- Ids that are all texts. -/
def AllTexts (ids : List Json) : Prop := ∀ id ∈ ids, ∃ s, id = .str s

namespace Repair.Holds

variable {entries : List Entry}

/-- Neither the source of ids nor the warnings are spoken of. -/
theorem congr (h : r.Holds settings entries) (hblocks : r'.blocks = r.blocks)
    (hseen : r'.seen = r.seen) : r'.Holds settings entries where
  blocks := hblocks.trans h.blocks
  seen := hseen.trans h.seen
  truthy := h.truthy
  readable := h.readable
  nodup := hseen ▸ h.nodup

theorem keep (h : r.Holds settings entries) {id : Json} (htruthy : id.isTruthy = true)
    (hnew : ∀ s, id.text? = some s → s ∉ r.seen.filterMap Json.text?) (kind : Kind)
    (o : Json.Object) :
    (r.keep settings kind o id).Holds settings
      (entries ++ [⟨id, kind, (keptContent settings kind id (contentOf o)).1⟩]) where
  blocks := by
    rw [List.map_append, ← h.blocks]
    rfl
  seen := by
    rw [List.map_append, ← h.seen]
    rfl
  truthy := by
    simpa [or_imp, forall_and] using ⟨h.truthy, htruthy⟩
  readable := by
    simpa [or_imp, forall_and] using ⟨h.readable, isOk_read_keptContent kind id (contentOf o)⟩
  nodup := by
    have hseen : (r.keep settings kind o id).seen = r.seen ++ [id] := rfl
    rw [hseen, List.filterMap_append]
    cases htext : id.text? with
    | none => simpa [htext] using h.nodup
    | some s =>
      have hlast : [id].filterMap Json.text? = [s] := by simp [htext]
      rw [hlast, List.nodup_append]
      refine ⟨h.nodup, List.pairwise_singleton _ s, fun t ht u hu => ?_⟩
      rw [List.mem_singleton.mp hu]
      rintro rfl
      exact hnew t htext ht

theorem keepFresh (h : r.Holds settings entries) (kind : Kind) (o : Json.Object) :
    ∃ entries', (r.keepFresh settings kind o).Holds settings entries' := by
  let drawn := r.source.fresh kind.name (r.seen.filterMap Json.text?)
  have hsource : Holds settings { r with source := drawn.2 } entries := h.congr rfl rfl
  have htruthy : (Json.str drawn.1).isTruthy = true := by
    simpa [Json.isTruthy] using r.source.fresh_ne_empty kind.name _
  have hnew : ∀ s, (Json.str drawn.1).text? = some s → s ∉ r.seen.filterMap Json.text? := by
    rintro s ⟨⟩
    exact r.source.fresh_not_mem kind.name _
  exact ⟨_, hsource.keep htruthy hnew kind o⟩

theorem outcome (h : r.Holds settings entries) (hstep : Outcome settings r v (r', none)) :
    ∃ entries', r'.Holds settings entries' := by
  cases hstep with
  | skipped => exact ⟨entries, h.congr rfl rfl⟩
  | kept _ htruthy _ hnew =>
    refine ⟨_, h.keep htruthy (fun s hs hmem => ?_) _ _⟩
    obtain ⟨id, hid, htext⟩ := List.mem_filterMap.mp hmem
    -- the texts are the same, and so are the keys
    rw [Json.text?_eq_some.mp hs, List.any_eq_false] at hnew
    rw [Json.text?_eq_some.mp htext] at hid
    exact hnew _ hid (Json.str_sameKey.mpr rfl)
  | given => exact h.keepFresh _ _
  | @replaced kind o =>
    have hwarned : Holds settings
        { r with warnings := r.warnings ++ [.replacedId (member o "id")] } entries :=
      h.congr rfl rfl
    exact hwarned.keepFresh kind o

end Repair.Holds

theorem allTexts_append_singleton {ids : List Json} {id : Json} :
    AllTexts (ids ++ [id]) ↔ AllTexts ids ∧ ∃ s, id = .str s := by
  simp [AllTexts, or_imp, forall_and]

/-- A kept id that is no text is that of a block that is at fault. -/
theorem Outcome.allTexts_iff (h : Outcome settings r v (r', none)) :
    AllTexts r'.seen ↔ AllTexts r.seen ∧ ¬Misidentified v := by
  cases h with
  | skipped hkind => exact (and_iff_left fun hbad => hkind hbad.1).symm
  | kept htype htruthy =>
    refine allTexts_append_singleton.trans (and_congr_right fun _ => ?_)
    simp only [misidentified_iff htype, htruthy, true_and, ← Json.text?_eq_some,
      ← Option.isSome_iff_exists, ← ne_eq, Option.isSome_iff_ne_none]
  | given htype hfalsy =>
    refine allTexts_append_singleton.trans (and_congr_right fun _ => ?_)
    simp [misidentified_iff htype, hfalsy]
  | replaced htype htruthy _ hseen =>
    refine allTexts_append_singleton.trans (and_congr_right fun htexts => ?_)
    obtain ⟨_, hid, hsame⟩ := List.any_eq_true.mp hseen
    obtain ⟨s, rfl⟩ := htexts _ hid
    have hown : member _ "id" = .str s := Json.str_sameKey.mp hsame
    simp [misidentified_iff htype, hown, Json.text?]

/-- Stored blocks are repaired up to the first one that cannot be looked up. -/
theorem repairBlocks_spec {entries : List Entry} (h : r.Holds settings entries)
    (items : List Json) :
    (∃ v ∈ items, Unsearchable v) ∧
        (∃ r', repairBlocks settings r items = (r', some .notScalar)) ∨
      (∀ v ∈ items, ¬Unsearchable v) ∧
        ∃ r' entries', repairBlocks settings r items = (r', none) ∧ r'.Holds settings entries' ∧
          (AllTexts r'.seen ↔ AllTexts r.seen ∧ ∀ v ∈ items, ¬Misidentified v) := by
  induction items generalizing r entries with
  | nil => exact .inr ⟨by simp, r, entries, rfl, h, by simp⟩
  | cons v items ih =>
    have hstep := repairBlock_outcome settings r v
    rw [repairBlocks]
    cases hrepair : repairBlock settings r v with
    | mk r₁ failure? =>
      rw [hrepair] at hstep
      cases failure? with
      | some failure =>
        cases hstep with
        | stopped hbad => exact .inl ⟨⟨v, List.mem_cons_self, hbad⟩, r, rfl⟩
      | none =>
        obtain ⟨entries₁, h₁⟩ := h.outcome hstep
        rcases ih h₁ with ⟨⟨w, hw, hbad⟩, hrest⟩ | ⟨hgood, r', entries', hrest, h', htexts⟩
        · exact .inl ⟨⟨w, List.mem_cons_of_mem v hw, hbad⟩, hrest⟩
        · refine .inr ⟨List.forall_mem_cons.mpr ⟨hstep.not_unsearchable, hgood⟩, r', entries',
            hrest, h', ?_⟩
          rw [htexts, hstep.allTexts_iff, List.forall_mem_cons, and_assoc]

/-! ### Documents -/

/-- A kept block can be read only if its id is a text, which is then the id of the block. -/
theorem Entry.id_of_readTagged {e : Entry} (htruthy : e.id.isTruthy = true) {block : Block}
    (h : Block.readTagged settings e.toJson source = (.ok block, rest)) :
    e.id = .str block.id := by
  obtain ⟨kind, o, htagged, hblock⟩ := Block.readTagged_eq_ok.mp h
  obtain ⟨hobject, -⟩ := Kind.asTagged_eq_ok.mp htagged
  obtain rfl := Json.obj.inj hobject
  rcases Block.readId_eq_ok.mp (Block.ofObject_eq_ok.mp hblock).1 with ⟨hid, -⟩ | ⟨hfalsy, -⟩
  · exact Option.some.inj hid
  · rw [hfalsy e.id rfl] at htruthy
    contradiction

theorem Entry.exists_readTagged {e : Entry} (htruthy : e.id.isTruthy = true)
    (hread : (Attributes.read settings e.kind (.obj e.content)).isOk = true)
    (htext : ∃ s, e.id = .str s) (source : IdSource) :
    ∃ block, Block.readTagged settings e.toJson source = (.ok block, source) := by
  obtain ⟨s, hs⟩ := htext
  obtain ⟨a, ha⟩ := isOk_iff.mp hread
  have hne : s ≠ "" := by simpa [hs, Json.isTruthy] using htruthy
  refine ⟨⟨s, a⟩, ?_⟩
  rw [Entry.toJson, hs]
  exact Block.readTagged_members hne ha

theorem ids_of_readBlocks {entries : List Entry} (htruthy : ∀ e ∈ entries, e.id.isTruthy = true)
    {position : Nat} {blocks : List Block}
    (h : Document.readBlocks settings position (entries.map Entry.toJson) source =
      (.ok blocks, rest)) :
    entries.map (·.id) = blocks.map fun block => .str block.id := by
  induction entries generalizing position source blocks with
  | nil =>
    cases h
    rfl
  | cons e entries ih =>
    rw [List.forall_mem_cons] at htruthy
    obtain ⟨block, bs, ids, hblock, hbs, rfl⟩ := Document.readBlocks_cons_eq_ok.mp h
    rw [List.map_cons, List.map_cons, ih htruthy.2 hbs, Entry.id_of_readTagged htruthy.1 hblock]

theorem exists_readBlocks {entries : List Entry} (htruthy : ∀ e ∈ entries, e.id.isTruthy = true)
    (hread : ∀ e ∈ entries, (Attributes.read settings e.kind (.obj e.content)).isOk = true)
    (htexts : AllTexts (entries.map (·.id))) (position : Nat) (source : IdSource) :
    ∃ blocks, Document.readBlocks settings position (entries.map Entry.toJson) source =
      (.ok blocks, source) := by
  induction entries generalizing position with
  | nil => exact ⟨[], rfl⟩
  | cons e entries ih =>
    rw [List.forall_mem_cons] at htruthy hread
    rw [List.map_cons, AllTexts, List.forall_mem_cons] at htexts
    obtain ⟨block, hblock⟩ := Entry.exists_readTagged htruthy.1 hread.1 htexts.1 source
    obtain ⟨bs, hbs⟩ := ih htruthy.2 hread.2 htexts.2 (position + 1)
    exact ⟨block :: bs, Document.readBlocks_cons_eq_ok.mpr ⟨_, _, _, hblock, hbs, rfl⟩⟩

/-- The kept blocks and a theme make a document if the ids are texts and the theme can be read. -/
theorem Repair.Holds.isOk_ofObject {entries : List Entry} (h : r.Holds settings entries)
    (theme : Json) (source : IdSource) :
    (Document.ofObject settings [("blocks", .arr r.blocks), ("designSettings", theme)]
        source).1.isOk = true ↔
      AllTexts r.seen ∧ ∃ t, Theme.read theme = .ok t := by
  rw [h.seen, h.blocks, isOk_iff]
  constructor
  · rintro ⟨d, hd⟩
    obtain ⟨hblocks, htheme, -⟩ := Document.ofObject_members_eq_ok.mp (Prod.ext hd rfl)
    refine ⟨?_, d.theme, htheme⟩
    rw [ids_of_readBlocks h.truthy hblocks]
    intro id hid
    obtain ⟨block, -, rfl⟩ := List.mem_map.mp hid
    exact ⟨block.id, rfl⟩
  · rintro ⟨htexts, t, ht⟩
    obtain ⟨blocks, hblocks⟩ := exists_readBlocks h.truthy h.readable htexts 0 source
    have hnodup : (Document.ids ⟨blocks, t⟩).Nodup := by
      have hseen := h.nodup
      rw [h.seen, ids_of_readBlocks h.truthy hblocks, List.filterMap_map] at hseen
      simpa [Document.ids, Function.comp_def, Json.text?] using hseen
    exact ⟨⟨blocks, t⟩,
      congrArg Prod.fst (Document.ofObject_members_eq_ok.mpr ⟨hblocks, ht, hnodup⟩)⟩

/-- The stored theme can be read if it is empty or a theme. -/
theorem exists_read_themeOf (o : Json.Object) :
    (∃ t, Theme.read (themeOf o) = .ok t) ↔
      ((o.get? "designSettings").getD (member o "theme")).isTruthy = false ∨
        ∃ t, Theme.read ((o.get? "designSettings").getD (member o "theme")) = .ok t := by
  have htheme : themeOf o =
      if ((o.get? "designSettings").getD (member o "theme")).isTruthy then
        (o.get? "designSettings").getD (member o "theme") else .obj [] := by
    unfold themeOf Json.Object.find? member Document.themeName
    cases o.get? "designSettings" with
    | some v => rfl
    | none => cases o.get? "theme" <;> rfl
  rw [htheme]
  cases ((o.get? "designSettings").getD (member o "theme")).isTruthy with
  | true => simp
  | false => simpa using ⟨Theme.standard, rfl⟩

/-- What has become of a stored document of some items: the repairs have stopped, the repaired
document is invalid, or it has been loaded. -/
inductive Judgement (o : Json.Object) (items : List Json) (result : Except Failure Document) : Prop
  | stopped (hbad : ∃ v ∈ items, Unsearchable v) (hresult : result = .error .notScalar)
  | invalid (hgood : ¬∃ v ∈ items, Unsearchable v)
      (hfault : (∃ v ∈ items, Misidentified v) ∨ ¬∃ t, Theme.read (themeOf o) = .ok t)
      (issues : List Issue) (hresult : result = .error (.invalid Document.model issues))
  | loaded (hgood : ¬∃ v ∈ items, Unsearchable v) (hids : ¬∃ v ∈ items, Misidentified v)
      (htheme : ∃ t, Theme.read (themeOf o) = .ok t) (d : Document) (hresult : result = .ok d)

theorem load_judgement {items : List Json} (hitems : Stored.items (member o "blocks") = .ok items)
    (settings : Settings) (source : IdSource) :
    Judgement o items (Document.load settings (.obj o) source).result := by
  have hstart : Repair.Holds settings ⟨[], [], source, []⟩ [] :=
    ⟨rfl, rfl, by simp, by simp, List.nodup_nil⟩
  rcases repairBlocks_spec hstart items with
    ⟨hbad, r, hrepair⟩ | ⟨hgood, r, entries, hrepair, hr, htexts⟩
  · refine .stopped hbad ?_
    simp only [Document.load, hitems, hrepair]
  · have hnone : ¬∃ v ∈ items, Unsearchable v := by simpa using hgood
    have hisOk := hr.isOk_ofObject (themeOf o) r.source
    -- no id has been seen at the start, so those of the items decide
    have hseen : AllTexts r.seen ↔ ¬∃ v ∈ items, Misidentified v := by
      rw [htexts]
      simp [AllTexts]
    rw [hseen] at hisOk
    simp only [Document.load, hitems, hrepair]
    cases hchecked : (Document.ofObject settings
        [("blocks", .arr r.blocks), ("designSettings", themeOf o)] r.source).1 with
    | ok d =>
      rw [hchecked] at hisOk
      obtain ⟨hids, htheme⟩ := hisOk.mp rfl
      exact .loaded hnone hids htheme d rfl
    | error issues =>
      rw [hchecked] at hisOk
      refine .invalid hnone ?_ issues rfl
      apply Classical.byContradiction
      intro hfine
      rw [not_or, not_not] at hfine
      exact Bool.false_ne_true (hisOk.mpr hfine)

end Stored

namespace Document

/-- Three things can become of a stored document whose blocks are an array or an empty value. A
type or an id that cannot be looked up is a failure of its own. Otherwise the document is invalid if
a block has an id that is neither a text nor empty, or if the theme is neither valid nor empty. In
all other cases it is loaded. -/
theorem load_verdict {o : Json.Object} {items : List Json}
    (h : Stored.member o "blocks" = .arr items ∨
      (Stored.member o "blocks").isTruthy = false ∧ items = [])
    (settings : Settings) (source : IdSource) :
    let result := (load settings (.obj o) source).result
    let theme := (o.get? "designSettings").getD (Stored.member o "theme")
    let themed := theme.isTruthy = false ∨ ∃ t, Theme.read theme = .ok t
    (result = .error .notScalar ↔ ∃ v ∈ items, Stored.Unsearchable v) ∧
    ((∃ issues, result = .error (.invalid model issues)) ↔
      (∀ v ∈ items, ¬Stored.Unsearchable v) ∧
        ((∃ v ∈ items, Stored.Misidentified v) ∨ ¬themed)) ∧
    ((∃ d, result = .ok d) ↔
      (∀ v ∈ items, ¬Stored.Unsearchable v) ∧ (∀ v ∈ items, ¬Stored.Misidentified v) ∧
        themed) := by
  intro result theme themed
  have hitems : Stored.items (Stored.member o "blocks") = .ok items := by
    rcases h with hblocks | ⟨hfalsy, rfl⟩
    · rw [hblocks]
      cases items <;> rfl
    · simp [Stored.items, hfalsy]
  have hthemed : (∃ t, Theme.read (Stored.themeOf o) = .ok t) ↔ themed :=
    Stored.exists_read_themeOf o
  have hsearch : (∀ v ∈ items, ¬Stored.Unsearchable v) ↔ ¬∃ v ∈ items, Stored.Unsearchable v := by
    simp
  have hids : (∀ v ∈ items, ¬Stored.Misidentified v) ↔
      ¬∃ v ∈ items, Stored.Misidentified v := by simp
  rw [hsearch, hids, ← hthemed]
  cases Stored.load_judgement hitems settings source with
  | stopped hbad hresult => simp [result, hresult, hbad]
  | invalid hgood hfault issues hresult =>
    have hfaulty : ¬((¬∃ v ∈ items, Stored.Misidentified v) ∧
        ∃ t, Theme.read (Stored.themeOf o) = .ok t) := by
      rwa [not_and_or, not_not]
    refine ⟨iff_of_false ?_ hgood, iff_of_true ⟨issues, hresult⟩ ⟨hgood, hfault⟩,
      iff_of_false ?_ fun h => hfaulty h.2⟩
    · simp [result, hresult]
    · simp [result, hresult]
  | loaded hgood hids htheme d hresult =>
    simp [result, hresult, hgood, hids, htheme]

/-- A number, a block of no kind and two spacers with a content that is no object: it is loaded
although the two have one id, but not if the second id is a number or an array. -/
theorem load_verdict_spacers :
    let settings : Settings := ⟨2024, "", "", ""⟩
    let spacer : Json → Json := fun id =>
      .obj [("type", .str "spacer"), ("id", id), ("content", .arr [.null])]
    let stored : Json → Json := fun id =>
      .obj [("blocks", .arr [.int 5, .obj [("type", .str "columns")], spacer (.str "s"),
        spacer id]), ("theme", .str "")]
    (∃ d, (load settings (stored (.str "s")) ⟨[], 0⟩).result = .ok d) ∧
      (∃ issues, (load settings (stored (.int 7)) ⟨[], 0⟩).result =
        .error (.invalid model issues)) ∧
      (load settings (stored (.arr [.null])) ⟨[], 0⟩).result = .error .notScalar := by
  intro settings spacer stored
  refine ⟨?_, ?_, ?_⟩
  · exact (load_verdict (.inl (by rfl)) settings _).2.2.mpr ⟨by decide, by decide, .inl rfl⟩
  · exact (load_verdict (.inl (by rfl)) settings _).2.1.mpr ⟨by decide, .inl (by decide)⟩
  · exact (load_verdict (.inl (by rfl)) settings _).1.mpr (by decide)

end Document
end MailTemplate
