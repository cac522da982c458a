import MailTemplate.Proofs.Document.Rebuilding
import MailTemplate.Proofs.Document.RoundTrip

/-!
# Loading again

A loaded document has nothing left to be repaired. Written and loaded again it is the same document,
and neither a draw nor a warning is needed.

* `Stored.keptMembers_of_forall` and `Attributes.isKept_of_mem_toObject`: written attributes, of
  which all members are kept;
* `Stored.repairBlock_toJson` and `repairBlocks_toJson`: written blocks, which repairs leave as they
  are;
* `Document.load_toJson`: documents in use without members that loading loses;
* `Document.load_toJson_of_load`: documents that have been loaded, which have none.
-/

namespace MailTemplate

variable {settings : Settings} {source : IdSource}

/-! ### Attributes -/

/-- A written record has a member for each field. -/
theorem Record.exists_of_mem_toObject {fields : List Field} {record : Record fields}
    {m : String × Json} (hm : m ∈ toObject fields record) :
    ∃ f ∈ fields, ∃ value : f.type.Carrier, m = (f.name.wire, f.type.toJson value) := by
  induction fields with
  | nil => exact absurd hm List.not_mem_nil
  | cons f fields ih =>
    rcases List.mem_cons.mp hm with rfl | hm
    · exact ⟨f, List.mem_cons_self, record.1, rfl⟩
    · obtain ⟨g, hg, value, rfl⟩ := ih hm
      exact ⟨g, List.mem_cons_of_mem f hg, value, rfl⟩

namespace Stored

variable {kind : Kind} {o : Json.Object}

theorem keptMembers_of_forall (id : Json) (h : ∀ m ∈ o, isKept settings kind m = true) :
    keptMembers settings kind id o = (o, []) := by
  induction o with
  | nil => rfl
  | cons m o ih =>
    obtain ⟨name, value⟩ := m
    rw [List.forall_mem_cons] at h
    obtain ⟨hkept, hrest⟩ := h
    simp only [isKept, Bool.and_eq_true, decide_eq_true_eq, isOk_iff] at hkept
    obtain ⟨hnull, a, ha⟩ := hkept
    simp only [keptMembers, ih hrest, if_neg hnull, ha]

/-- A declared field is written as a member that is kept. -/
theorem isKept_toJson {f : Field} (hf : f ∈ kind.fields) (value : f.type.Carrier) :
    isKept settings kind (f.name.wire, f.type.toJson value) = true := by
  have hread := FieldType.read_toJson f.type value
  refine isKept_iff.mpr ⟨fun hnull => ?_, fun g hg hname => ?_⟩
  · have hfails := f.type.isOk_read_null
    rw [← hnull, hread] at hfails
    contradiction
  · rw [kind.field_unique hg hf hname (.inl rfl), hread]
    rfl

end Stored

theorem Attributes.isKept_of_mem_toObject {a : Attributes} (h : a.IsRead) (hpruned : a.pruned = a)
    {m : String × Json} (hm : m ∈ a.toObject) :
    Stored.isKept settings a.content.kind m = true := by
  rcases List.mem_append.mp hm with hm | hm
  · obtain ⟨f, hf, value, rfl⟩ := Record.exists_of_mem_toObject hm
    exact Stored.isKept_toJson hf value
  · have hlost := pruned_eq_self.mp hpruned m hm
    obtain ⟨kind, defaults, o, hread⟩ := h
    obtain ⟨record, -, rfl⟩ := ofObject_eq_ok.mp hread
    rw [Content.kind_ofRecord] at hlost ⊢
    rw [Stored.isKept_of_mem_unused hm, hlost]
    rfl

namespace Stored

/-! ### Written blocks -/

variable {r : Repair} {taken : List String}

/-- A written block is left as it is, if its id is not taken. -/
theorem repairBlock_toJson (settings : Settings) (hseen : r.seen = taken.map .str) {block : Block}
    (hne : block.id ≠ "") (hnew : block.id ∉ taken) (hread : block.attributes.IsRead)
    (hpruned : block.attributes.pruned = block.attributes) :
    repairBlock settings r block.toJson =
      ({ r with blocks := r.blocks ++ [block.toJson], seen := (taken ++ [block.id]).map .str },
        none) := by
  have hid : Block.readId block.kind.name
      [("id", .str block.id), ("type", .str block.kind.name),
        ("content", .obj block.attributes.toObject)] r.source = (.ok block.id, r.source) :=
    Block.readId_eq_ok.mpr (.inl ⟨rfl, hne, rfl⟩)
  have hcontent : keptContent settings block.kind (.str block.id)
      (.obj block.attributes.toObject) = (block.attributes.toObject, []) :=
    keptMembers_of_forall _ fun m hm => block.attributes.isKept_of_mem_toObject hread hpruned hm
  have hstored : contentOf [("id", .str block.id), ("type", .str block.kind.name),
      ("content", .obj block.attributes.toObject)] = .obj block.attributes.toObject := rfl
  have htype : member [("id", .str block.id), ("type", .str block.kind.name),
      ("content", .obj block.attributes.toObject)] "type" = .str block.kind.name := rfl
  rw [Block.toJson, repairBlock_of_type htype, keepBlock_of_readId hseen hnew hid]
  simp only [Repair.keep, hstored, hcontent, hseen, List.map_append, List.append_nil]
  rfl

theorem repairBlocks_toJson (settings : Settings) {blocks : List Block}
    (hseen : r.seen = taken.map .str) (hnodup : (taken ++ blocks.map (·.id)).Nodup)
    (h : ∀ block ∈ blocks, block.id ≠ "" ∧ block.attributes.IsRead ∧
      block.attributes.pruned = block.attributes) :
    ∃ seen, repairBlocks settings r (blocks.map Block.toJson) =
      ({ r with blocks := r.blocks ++ blocks.map Block.toJson, seen }, none) := by
  induction blocks generalizing r taken with
  | nil => exact ⟨r.seen, by rw [List.map_nil, List.append_nil]; rfl⟩
  | cons block blocks ih =>
    rw [List.forall_mem_cons] at h
    obtain ⟨⟨hne, hread, hpruned⟩, hrest⟩ := h
    rw [List.map_cons, List.append_cons] at hnodup
    have hnew := not_mem_of_nodup hnodup
    have hblock := repairBlock_toJson settings hseen hne hnew hread hpruned
    obtain ⟨seen, hblocks⟩ := ih (r := ⟨r.blocks ++ [block.toJson], _, r.source, r.warnings⟩) rfl
      hnodup hrest
    refine ⟨seen, ?_⟩
    rw [List.map_cons, repairBlocks, hblock]
    simp only [hblocks, List.append_assoc, List.singleton_append]

theorem isKept_of_mem_keptContent {id content : Json} {m : String × Json}
    (hm : m ∈ (keptContent settings kind id content).1) : isKept settings kind m = true := by
  cases content with
  | obj members =>
    have hkept : m ∈ (keptMembers settings kind id members).1 := hm
    rw [keptMembers_eq_filter] at hkept
    exact (List.mem_filter.mp hkept).2
  | _ => exact absurd hm List.not_mem_nil

/-- The content that is kept of a stored one has no member that loading loses. -/
theorem Keeps.pruned_eq_self {block : Block} (h : Keeps settings o block) :
    block.attributes.pruned = block.attributes := by
  have hobject : Attributes.ofObject block.kind (block.kind.defaults settings)
      (keptContent settings block.kind (.str block.id) (contentOf o)).1 = .ok block.attributes :=
    h.attributes
  obtain ⟨record, -, heq⟩ := Attributes.ofObject_eq_ok.mp hobject
  refine Attributes.pruned_eq_self.mpr fun m hm => ?_
  rw [congrArg Attributes.extra heq] at hm
  have hkept := isKept_of_mem_keptContent (List.mem_of_mem_filter hm)
  rwa [isKept_of_mem_unused hm, Bool.not_eq_true'] at hkept

end Stored

/-! ### Documents -/

namespace Document

variable {d : Document}

/-- A document in use is loaded from its written form as it is, if it has no member that loading
loses. -/
theorem load_toJson (h : d.Reachable) (hpruned : d.pruned = d) (settings : Settings)
    (source : IdSource) : load settings d.toJson source = ⟨.ok d, source, []⟩ := by
  have hitems : Stored.items (Stored.member d.toObject "blocks") =
      .ok (d.blocks.map Block.toJson) := by
    have hblocks : Stored.member d.toObject "blocks" = .arr (d.blocks.map Block.toJson) := rfl
    rw [hblocks]
    cases d.blocks <;> rfl
  have hkept : ∀ block ∈ d.blocks, block.id ≠ "" ∧ block.attributes.IsRead ∧
      block.attributes.pruned = block.attributes := by
    refine fun block hblock => ⟨h.sound.id_ne_empty hblock, h.isRead block hblock, ?_⟩
    exact Attributes.pruned_eq_self.mpr (pruned_eq_self.mp hpruned block hblock)
  have hseen : (⟨[], [], source, []⟩ : Stored.Repair).seen = ([] : List String).map .str := rfl
  obtain ⟨seen, hrepair⟩ := Stored.repairBlocks_toJson settings hseen h.sound.nodup hkept
  have hread := ofObject_toObject h settings source
  rw [toObject] at hread
  have htheme : Stored.themeOf d.toObject = .obj d.theme.toObject := rfl
  simp only [load, toJson, hitems, hrepair, htheme, List.nil_append, hread, Checked.orInvalid]

/-- What has been loaded once is loaded again as it is, under any settings: nothing has to be
repaired, no id is drawn and there is no warning. -/
theorem load_toJson_of_load {v : Json} (h : (load settings v source).result = .ok d)
    (settings' : Settings) (source' : IdSource) :
    load settings' d.toJson source' = ⟨.ok d, source', []⟩ := by
  obtain ⟨o, items, warnings, rest, -, -, hrebuilt, -⟩ := Stored.exists_rebuilt_of_load h
  refine load_toJson (.load h) (pruned_eq_self.mpr fun block hblock => ?_) settings' source'
  obtain ⟨stored, -, hkeeps⟩ := hrebuilt.exists_keeps block hblock
  exact Attributes.pruned_eq_self.mp hkeeps.pruned_eq_self

/-- The first time, a null and a column are left out, an attribute has its default, a boolean is
read as a length, the width is moved to its bound and an id is drawn. The second time nothing of
the kind happens, and the two sizes are still told apart. -/
theorem load_toJson_of_load_paragraphs :
    let settings : Settings := ⟨2024, "", "", ""⟩
    let paragraph : Json → Json := fun content =>
      .obj [("type", .str "paragraph"), ("id", .str "p"), ("attributes", content)]
    let v : Json := .obj [("blocks", .arr [.null, .obj [("type", .str "columns")],
      paragraph (.obj [("font_size", .int 3), ("text", .int 1), ("tag", .arr []),
        ("fontSize", .bool true), ("note", .null)]), paragraph .null]),
      ("theme", .obj [("content_width", .int 9)])]
    let block : String → Pixels → Json.Object → Block := fun id size extra =>
      ⟨id, ⟨.paragraph "Your text here..." "#475569" size, extra⟩⟩
    let d : Document := ⟨[block "p" (.int 1) [("font_size", .int 3), ("tag", .arr [])],
      block "paragraph-000000000001" (.int 16) []],
      { Theme.standard with contentWidth := .clamp _ 9 }⟩
    (load settings v ⟨[], 0⟩).result = .ok d ∧ (load settings v ⟨[], 0⟩).source = ⟨[], 1⟩ ∧
      (load settings v ⟨[], 0⟩).warnings = [.skippedBlock .null, .skippedBlock (.str "columns"),
        .invalidAttribute "text" (.str "p"), .replacedId (.str "p")] ∧
      load settings d.toJson ⟨["a"], 1⟩ = ⟨.ok d, ⟨["a"], 1⟩, []⟩ := by
  intro settings paragraph v block d
  have h : (load settings v ⟨[], 0⟩).result = .ok d := by decide
  exact ⟨h, by decide, by decide, load_toJson_of_load h settings _⟩

end Document
end MailTemplate
