import MailTemplate.Document.Stored
import MailTemplate.Proofs.Attributes
import MailTemplate.Proofs.Document.Reading
import MailTemplate.Proofs.IdSource.Fresh

/-!
# Loading what can be read

Loading is for documents that cannot be read as they are. One that can be read is loaded as it is
read, from the same drawn ids, but for a few undeclared members.

* `Attributes.isDropped`, `Attributes.pruned` and `Document.pruned`: the members that are lost, and
  attributes and documents without them;
* `Stored.keptMembers_eq_filter` and `ofObject_keptMembers`: the members that are kept;
* `Stored.repairBlock_of_read` and `repairBlocks_of_read`: blocks that are kept as they are read;
* `load_of_read`: whole documents.
-/

namespace MailTemplate

variable {settings : Settings} {source rest : IdSource}

/-- Whether loading loses an undeclared member of a block of a kind: one that is null, and in a
paragraph a size of the text under its other name, unless it is a length. -/
def Attributes.isDropped (kind : Kind) : String × Json → Bool
  | (name, value) =>
      value = .null || (kind = .paragraph && name = "font_size" && !value.asPixels.isOk)

/-- Attributes without the members that loading loses. -/
def Attributes.pruned (a : Attributes) : Attributes :=
  { a with extra := a.extra.filter fun m => !isDropped a.content.kind m }

/-- A block without the members that loading loses. -/
def Block.pruned (block : Block) : Block := { block with attributes := block.attributes.pruned }

/-- A document without the members that loading loses. -/
def Document.pruned (d : Document) : Document := { d with blocks := d.blocks.map Block.pruned }

/-! ### What is lost -/

theorem Attributes.pruned_eq_self {a : Attributes} :
    a.pruned = a ↔ ∀ m ∈ a.extra, isDropped a.content.kind m = false := by
  obtain ⟨content, extra⟩ := a
  simp [pruned, List.filter_eq_self]

@[simp] theorem Document.ids_pruned (d : Document) : d.pruned.ids = d.ids := by
  simp [pruned, ids, Block.pruned]

theorem Document.pruned_eq_self {d : Document} :
    d.pruned = d ↔
      ∀ block ∈ d.blocks, ∀ m ∈ block.attributes.extra,
        Attributes.isDropped block.kind m = false := by
  obtain ⟨blocks, theme⟩ := d
  simp only [pruned, mk.injEq, and_true]
  have hmap : blocks.map Block.pruned = blocks ↔ ∀ block ∈ blocks, block.pruned = block := by
    induction blocks with
    | nil => simp
    | cons block blocks ih => simp [ih]
  rw [hmap]
  refine forall₂_congr fun block _ => ?_
  obtain ⟨id, attributes⟩ := block
  rw [Block.pruned, Block.mk.injEq, Attributes.pruned_eq_self]
  simp [Block.kind]

/-! ### Members -/

namespace Stored

variable {kind : Kind} {o : Json.Object}

/-- Whether a member of a stored content is kept: it is not null, and its kind accepts it. -/
def isKept (settings : Settings) (kind : Kind) : String × Json → Bool
  | (name, value) =>
      value ≠ .null && (Attributes.ofObject kind (kind.defaults settings) [(name, value)]).isOk

theorem keptMembers_eq_filter (kind : Kind) (id : Json) (o : Json.Object) :
    (keptMembers settings kind id o).1 = o.filter (isKept settings kind) := by
  induction o with
  | nil => rfl
  | cons m o ih =>
    obtain ⟨name, value⟩ := m
    rw [List.filter_cons, ← ih]
    simp only [keptMembers, isKept]
    by_cases hnull : value = .null
    · simp [hnull]
    · rw [if_neg hnull]
      split
      · rename_i a ha
        simp [hnull, isOk_iff.mpr ⟨a, ha⟩]
      · rename_i issues hissues
        simp [hissues, Except.isOk, Except.toBool]

/-- A kind accepts a member that it can read as every field of that name. -/
theorem isKept_iff {name : String} {value : Json} :
    isKept settings kind (name, value) = true ↔ value ≠ .null ∧
      ∀ f ∈ kind.fields, name = f.name.wire ∨ name = f.name.other →
        (f.type.read value).isOk = true := by
  simp only [isKept, Attributes.ofObject, isOk_map, Bool.and_eq_true, decide_eq_true_eq,
    Record.isOk_read, Json.Object.find?_singleton]
  refine and_congr_right fun _ => forall₂_congr fun f _ => ?_
  by_cases hname : name = f.name.wire ∨ name = f.name.other <;> simp [hname]

/-- The members that hold the fields of a record are kept. -/
theorem isKept_of_find? {record : Record kind.fields}
    (h : Record.read kind.fields (kind.defaults settings) o = .ok record) {f : Field}
    (hf : f ∈ kind.fields) {m : String × Json} (hm : o.find? f.name = some m) :
    isKept settings kind m = true := by
  have hread := Record.isOk_read.mp (isOk_iff.mpr ⟨record, h⟩) f hf m hm
  obtain ⟨name, value⟩ := m
  refine isKept_iff.mpr ⟨?_, fun g hg hname => ?_⟩
  · rintro rfl
    rw [f.type.isOk_read_null] at hread
    contradiction
  · rwa [kind.field_unique hg hf hname (Json.Object.name_of_find? hm)]

/-- Of the members that hold no field, loading keeps those that are not lost. -/
theorem isKept_of_mem_unused {m : String × Json} (hm : m ∈ Record.unused kind.fields o) :
    isKept settings kind m = !Attributes.isDropped kind m := by
  obtain ⟨name, value⟩ := m
  have hwire : ∀ f ∈ kind.fields, name ≠ f.name.wire :=
    fun f hf => Record.ne_wire_of_mem_unused hm hf
  rw [Bool.eq_iff_iff, isKept_iff, Bool.not_eq_true', Attributes.isDropped, Bool.or_eq_false_iff,
    decide_eq_false_iff_not]
  refine and_congr_right fun _ => ?_
  constructor
  · intro hread
    by_cases hshadowed : kind = .paragraph ∧ name = "font_size"
    · obtain ⟨rfl, rfl⟩ := hshadowed
      have := hread ⟨⟨"fontSize", "font_size"⟩, .pixels⟩ (by simp) (.inr rfl)
      simpa [FieldType.read] using this
    · simp only [Bool.and_eq_false_iff, decide_eq_false_iff_not]
      exact .inl (not_and_or.mp hshadowed)
  · intro hlost f hf hname
    rcases hname with hname | hname
    · exact absurd hname (hwire f hf)
    · obtain ⟨rfl, rfl⟩ := kind.field_other hf (by rw [← hname]; exact hwire f hf)
      simpa [hname, FieldType.read] using hlost

/-- The kept members of a content describe its attributes, without those that are lost. -/
theorem ofObject_keptMembers {a : Attributes} (id : Json)
    (h : Attributes.ofObject kind (kind.defaults settings) o = .ok a) :
    Attributes.ofObject kind (kind.defaults settings) (keptMembers settings kind id o).1 =
      .ok a.pruned := by
  obtain ⟨record, hrecord, rfl⟩ := Attributes.ofObject_eq_ok.mp h
  rw [keptMembers_eq_filter, Attributes.ofObject_filter
    (fun f hf m hm => isKept_of_find? hrecord hf hm) h]
  simp only [Attributes.pruned, Content.kind_ofRecord, Except.ok.injEq, Attributes.mk.injEq,
    true_and]
  exact List.filter_congr fun m hm => isKept_of_mem_unused hm

theorem read_keptContent {a : Attributes} (id : Json)
    (h : o.optional Block.attributesName (.standard settings kind)
      (Attributes.read settings kind) = .ok a) :
    Attributes.read settings kind (.obj (keptContent settings kind id (contentOf o)).1) =
      .ok a.pruned := by
  unfold contentOf
  unfold Json.Object.optional at h
  cases hfind : o.find? Block.attributesName with
  | none =>
    rw [hfind] at h
    obtain rfl := Except.ok.inj h
    -- an absent content and an empty one are the same
    exact Attributes.ofObject_nil kind (kind.defaults settings)
  | some m =>
    obtain ⟨name, v⟩ := m
    rw [hfind] at h
    obtain ⟨content, hcontent, hread⟩ := bind_eq_ok.mp (Checked.under_eq_ok.mp h)
    obtain rfl := Json.asModel_eq_ok.mp hcontent
    exact ofObject_keptMembers id hread

/-! ### Blocks -/

variable {r : Repair} {taken : List String}

/-- Texts are the same key if they are the same text. -/
theorem any_sameKey_texts (taken : List String) (id : String) :
    ((taken.map Json.str).any (·.sameKey (.str id))) = decide (id ∈ taken) := by
  rw [List.any_map, Bool.eq_iff_iff, List.any_eq_true, decide_eq_true_eq]
  simp [Json.sameKey, Json.whole?]

theorem keepFresh_of_seen (hseen : r.seen = taken.map .str) :
    r.keepFresh settings kind o =
      Repair.keep settings { r with source := (r.source.fresh kind.name taken).2 } kind o
        (.str (r.source.fresh kind.name taken).1) := by
  have htexts : r.seen.filterMap Json.text? = taken := by
    simp [hseen, List.filterMap_map, Function.comp_def, Json.text?]
  rw [Repair.keepFresh, htexts]

/-- A block gets the id that it is read with: its own one, or the first one drawn for it. -/
theorem keepBlock_of_readId (hseen : r.seen = taken.map .str) {id : String} (hnew : id ∉ taken)
    (h : Block.readId kind.name o r.source = (.ok id, rest)) :
    r.keepBlock settings kind o =
      (Repair.keep settings { r with source := rest } kind o (.str id), none) := by
  unfold Repair.keepBlock
  rcases Block.readId_eq_ok.mp h with ⟨hid, hne, hsource⟩ | ⟨hfalsy, hdraw⟩
  · -- the block has an id of its own, and no earlier one has it
    subst hsource
    have hmember : member o "id" = .str id := by rw [member, hid]; rfl
    have htruthy : (Json.str id).isTruthy = true := by simpa [Json.isTruthy] using hne
    have hscalar : (Json.str id).isScalar = true := rfl
    have hunseen : (r.seen.any (·.sameKey (.str id))) = false := by
      rw [hseen, any_sameKey_texts, decide_eq_false hnew]
    simp only [hmember, htruthy, hscalar, hunseen, Bool.not_true, Bool.false_eq_true, ↓reduceIte]
  · -- the id is drawn; as it differs from the earlier ones, the first draw will do
    have hfalse : (member o "id").isTruthy = false := by
      rw [member]
      cases hid : o.get? "id" with
      | none => rfl
      | some v => exact hfalsy v hid
    have hfree : (r.source.draw kind.name).1 ∉ taken := by rwa [hdraw]
    simp only [hfalse, Bool.not_false, ↓reduceIte, keepFresh_of_seen hseen,
      IdSource.fresh_eq_draw hfree, hdraw]

theorem repairBlock_of_type (htype : member o "type" = .str kind.name) :
    repairBlock settings r (.obj o) = r.keepBlock settings kind o := by
  have htruthy : (Json.str kind.name).isTruthy = true := by cases kind <;> decide
  have hresolve : Kind.resolve (.str kind.name) = .ok kind := Kind.resolve_eq_ok.mpr rfl
  rw [repairBlock]
  simp only [htype, htruthy, hresolve, Bool.not_true, Bool.false_eq_true, ↓reduceIte]

/-- A block that can be read is kept. Read again, it lacks the members that are lost, and no id is
drawn for it. -/
theorem repairBlock_of_read (hseen : r.seen = taken.map .str) {v : Json} {block : Block}
    (hnew : block.id ∉ taken)
    (h : Block.readTagged settings v r.source = (.ok block, rest)) :
    ∃ entry warnings,
      repairBlock settings r v =
        (⟨r.blocks ++ [entry], (taken ++ [block.id]).map .str, rest, warnings⟩, none) ∧
      ∀ ids, Block.readTagged settings entry ids = (.ok block.pruned, ids) := by
  obtain ⟨kind, o, htagged, hblock⟩ := Block.readTagged_eq_ok.mp h
  obtain ⟨rfl, htype⟩ := Kind.asTagged_eq_ok.mp htagged
  obtain ⟨hid, hattributes⟩ := Block.ofObject_eq_ok.mp hblock
  have hmember : member o "type" = .str kind.name := by rw [member, htype]; rfl
  have hread := read_keptContent (.str block.id) hattributes
  refine ⟨_, r.warnings ++ (keptContent settings kind (.str block.id) (contentOf o)).2, ?_,
    fun ids => Block.readTagged_members (Block.readId_ne_empty hid) hread⟩
  rw [repairBlock_of_type hmember, keepBlock_of_readId hseen hnew hid, Repair.keep, hseen,
    List.map_append]
  rfl

theorem not_mem_of_nodup {id : String} {ids : List String} (h : (taken ++ [id] ++ ids).Nodup) :
    id ∉ taken := by
  obtain ⟨htaken, -, -⟩ := List.nodup_append.mp h
  obtain ⟨-, -, hne⟩ := List.nodup_append.mp htaken
  exact fun hmem => hne id hmem id (List.mem_singleton_self id) rfl

/-- Blocks that can be read, and whose ids differ, are all kept. -/
theorem repairBlocks_of_read (hseen : r.seen = taken.map .str) {position : Nat}
    {items : List Json} {blocks : List Block} (hnodup : (taken ++ blocks.map (·.id)).Nodup)
    (h : Document.readBlocks settings position items r.source = (.ok blocks, rest)) :
    ∃ r' entries,
      repairBlocks settings r items = (r', none) ∧ r'.source = rest ∧
      r'.blocks = r.blocks ++ entries ∧
      ∀ position ids, Document.readBlocks settings position entries ids =
        (.ok (blocks.map Block.pruned), ids) := by
  -- the ids so far are the taken ones, and each kept block adds its own
  induction items generalizing r taken position blocks with
  | nil =>
    cases h
    exact ⟨r, [], rfl, rfl, (List.append_nil _).symm, fun _ _ => rfl⟩
  | cons v items ih =>
    obtain ⟨block, bs, ids, hblock, hbs, rfl⟩ := Document.readBlocks_cons_eq_ok.mp h
    rw [List.map_cons, List.append_cons] at hnodup
    have hnew := not_mem_of_nodup hnodup
    obtain ⟨entry, warnings, hrepair, hentry⟩ := repairBlock_of_read hseen hnew hblock
    obtain ⟨r', entries, hrepairs, hsource, hblocks, hentries⟩ :=
      ih (r := ⟨_, _, ids, warnings⟩) rfl hnodup hbs
    refine ⟨r', entry :: entries, ?_, hsource, ?_, fun position ids => ?_⟩
    · rw [repairBlocks, hrepair]
      exact hrepairs
    · exact hblocks.trans (List.append_cons _ _ _).symm
    · exact Document.readBlocks_cons_eq_ok.mpr ⟨_, _, _, hentry ids, hentries _ _, rfl⟩

/-! ### Documents -/

/-- The items of blocks that can be read are the same for loading. -/
theorem items_of_blocksOf {blocks : List Block}
    (h : Document.blocksOf settings o source = (.ok blocks, rest)) :
    ∃ values, items (member o "blocks") = .ok values ∧
      Document.readBlocks settings 0 values source = (.ok blocks, rest) := by
  rcases Document.blocksOf_eq_ok.mp h with ⟨hnone, rfl, rfl⟩ | ⟨values, hvalues, hread⟩
  · refine ⟨[], ?_, rfl⟩
    rw [member, hnone]
    rfl
  · refine ⟨values, ?_, hread⟩
    rw [member, hvalues]
    cases values <;> rfl

/-- A theme that can be read is loaded; where it is empty or absent, it is the standard one. -/
theorem read_themeOf {theme : Theme}
    (h : o.optional Document.themeName .standard Theme.read = .ok theme) :
    Theme.read (themeOf o) = .ok theme := by
  unfold themeOf
  unfold Json.Object.optional at h
  cases hfind : o.find? Document.themeName with
  | none =>
    rw [hfind] at h
    obtain rfl := Except.ok.inj h
    rfl
  | some m =>
    obtain ⟨name, v⟩ := m
    rw [hfind] at h
    have hread := Checked.under_eq_ok.mp h
    obtain ⟨members, hmembers, -⟩ := bind_eq_ok.mp hread
    obtain rfl := Json.asModel_eq_ok.mp hmembers
    -- an empty object stands for itself as well as for an empty value
    cases members <;> exact hread

end Stored

namespace Document

/-- A document that can be read is also loaded, with the same drawn ids, and it is the one that is
read but for the members that are lost. So nothing changes exactly if it has no such member. -/
theorem load_of_read {v : Json} {d : Document} (h : read settings v source = (.ok d, rest)) :
    (load settings v source).result = .ok d.pruned ∧
      (load settings v source).source = rest ∧
      d.pruned.ids = d.ids ∧
      ((load settings v source).result = .ok d ↔
        ∀ block ∈ d.blocks, ∀ m ∈ block.attributes.extra,
          Attributes.isDropped block.kind m = false) := by
  obtain ⟨o, rfl, hobject⟩ := read_eq_ok.mp h
  obtain ⟨hblocks, htheme, hnodup⟩ := ofObject_eq_ok.mp hobject
  obtain ⟨values, hvalues, hread⟩ := Stored.items_of_blocksOf hblocks
  have hseen : (⟨[], [], source, []⟩ : Stored.Repair).seen = ([] : List String).map .str := rfl
  obtain ⟨r, entries, hrepair, rfl, hentries, hreread⟩ :=
    Stored.repairBlocks_of_read hseen hnodup hread
  have hloaded : ofObject settings
      [("blocks", .arr r.blocks), ("designSettings", Stored.themeOf o)] r.source =
        (.ok d.pruned, r.source) := by
    refine ofObject_eq_ok.mpr ⟨blocksOf_eq_ok.mpr (.inr ⟨entries, ?_, hreread 0 _⟩), ?_, ?_⟩
    · rw [hentries]
      rfl
    · exact Checked.under_eq_ok.mpr (Stored.read_themeOf htheme)
    · rwa [ids_pruned]
  have hload : load settings (.obj o) source = ⟨.ok d.pruned, r.source, r.warnings⟩ := by
    simp only [load, hvalues, hrepair, hloaded, Checked.orInvalid]
  rw [hload]
  refine ⟨rfl, rfl, ids_pruned d, ?_⟩
  rw [Except.ok.injEq, pruned_eq_self]

/-- A second size that is no length and a null are lost, another undeclared member is not. -/
theorem load_shadowed_size :
    let settings : Settings := ⟨2024, "", "", ""⟩
    let block : List (String × Json) → Json := fun members =>
      .obj [("id", .str "p"), ("type", .str "paragraph"), ("content", .obj members)]
    let v : Json := .obj [("blocks", .arr [block [("fontSize", .int 18), ("font_size", .arr []),
      ("note", .null), ("tag", .bool true)]])]
    let d : Document :=
      ⟨[⟨"p", ⟨.paragraph "Your text here..." "#475569" (.int 18),
        [("font_size", .arr []), ("note", .null), ("tag", .bool true)]⟩⟩], .standard⟩
    read settings v ⟨[], 0⟩ = (.ok d, ⟨[], 0⟩) ∧
      (load settings v ⟨[], 0⟩).result = .ok d.pruned ∧
      d.pruned.blocks.map (·.attributes.extra) = [[("tag", .bool true)]] := by
  intro settings block v d
  have h : read settings v ⟨[], 0⟩ = (.ok d, ⟨[], 0⟩) := by rfl
  exact ⟨h, (load_of_read h).1, by decide⟩

end Document
end MailTemplate
