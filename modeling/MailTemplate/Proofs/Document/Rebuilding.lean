import MailTemplate.Proofs.Document.Repair
import MailTemplate.Proofs.Document.Sound

/-!
# What loading makes of stored blocks

No stored block of a known kind is lost. It keeps its place and its id, unless an earlier block has
that id, and then it is given one that is new.

* `Stored.ownId?`, `Stored.Keeps` and `Stored.Assigned`: what becomes of the id and of the content
  of a stored block;
* `Stored.Rebuilt`: a whole run of repairs, and the blocks that are read of it;
* `exists_rebuilt` and `exists_rebuilt_of_load`: each loaded document comes from such a run;
* `Stored.Restored` and `Rebuilt.restored`: one block, the ids before it and the draws of the run;
* `Document.load_repairs_ids`: whole documents.
-/

namespace MailTemplate

variable {settings : Settings} {source rest : IdSource}

theorem Attributes.kind_of_read {kind : Kind} {v : Json} {a : Attributes}
    (h : read settings kind v = .ok a) : a.content.kind = kind := by
  obtain ⟨o, -, hobject⟩ := bind_eq_ok.mp h
  obtain ⟨record, -, rfl⟩ := ofObject_eq_ok.mp hobject
  exact Content.kind_ofRecord kind record

/-- The id that a warning says has been replaced. -/
def Warning.replacedId? : Warning → Option Json
  | .replacedId id => some id
  | _ => none

/-- The type that a warning says has been left out. -/
def Warning.skippedType? : Warning → Option Json
  | .skippedBlock type => some type
  | _ => none

namespace Stored

variable {kind : Kind} {o : Json.Object} {v : Json} {taken : List String} {block : Block}

/-! ### Ids and contents -/

/-- The id of a stored block, if it has a text that is not empty. -/
def ownId? (v : Json) : Option String := (memberOf v "id").text?.filter (· ≠ "")

theorem ownId?_eq_some {id : String} :
    ownId? v = some id ↔ memberOf v "id" = .str id ∧ id ≠ "" := by
  simp [ownId?, Option.filter_eq_some_iff, Json.text?_eq_some]

theorem ownId?_eq_none (h : (memberOf v "id").isTruthy = false) : ownId? v = none := by
  rw [Option.eq_none_iff_forall_ne_some]
  intro id hid
  obtain ⟨hid, hne⟩ := ownId?_eq_some.mp hid
  simp [hid, Json.isTruthy, hne] at h

/-- An id that is not empty is a text, unless the block is at fault. -/
theorem exists_ownId? (hkind : HasKind v) (hids : ¬Misidentified v)
    (h : (memberOf v "id").isTruthy = true) :
    ∃ id, memberOf v "id" = .str id ∧ ownId? v = some id := by
  have htext : (memberOf v "id").text? ≠ none := fun hnone => hids ⟨hkind, h, hnone⟩
  obtain ⟨id, hid⟩ := Option.ne_none_iff_exists'.mp htext
  rw [Json.text?_eq_some] at hid
  rw [hid] at h
  exact ⟨id, hid, ownId?_eq_some.mpr ⟨hid, by simpa [Json.isTruthy] using h⟩⟩

/-- A block has the kind of a stored one and the attributes that are kept of it. -/
structure Keeps (settings : Settings) (o : Json.Object) (block : Block) : Prop where
  type : member o "type" = .str block.kind.name
  attributes : Attributes.read settings block.kind
    (.obj (keptContent settings block.kind (.str block.id) (contentOf o)).1) = .ok block.attributes

/-- Whatever the content of a stored block is, some block keeps it. -/
theorem exists_keeps (settings : Settings) (htype : member o "type" = .str kind.name)
    (id : String) : ∃ block, block.id = id ∧ block.kind = kind ∧ Keeps settings o block := by
  have hread : (Attributes.read settings kind
      (.obj (keptContent settings kind (.str id) (contentOf o)).1)).isOk = true :=
    isOk_read_keptContent kind (.str id) (contentOf o)
  obtain ⟨a, ha⟩ := isOk_iff.mp hread
  obtain rfl := Attributes.kind_of_read ha
  exact ⟨⟨id, a⟩, rfl, rfl, htype, ha⟩

/-- The id of a kept block is its own one, unless that is taken, and a fresh one otherwise. The
source is drawn from, and a replaced id is warned of, only in the second case. -/
inductive Assigned (taken : List String) (source : IdSource) (kind : Kind) (v : Json) :
    String → List Warning → IdSource → Prop
  | own {id : String} (hid : ownId? v = some id) (hnew : id ∉ taken) :
      Assigned taken source kind v id [] source
  | fresh {id : String} {rest : IdSource} (htaken : ∀ own, ownId? v = some own → own ∈ taken)
      (hfresh : source.fresh kind.name taken = (id, rest)) :
      Assigned taken source kind v id ((ownId? v).toList.map fun own => .replacedId (.str own)) rest

namespace Assigned

variable {id : String} {warnings : List Warning}

theorem of_taken (htaken : ∀ own, ownId? v = some own → own ∈ taken) :
    Assigned taken source kind v (source.fresh kind.name taken).1
      ((ownId? v).toList.map fun own => .replacedId (.str own))
      (source.fresh kind.name taken).2 :=
  .fresh htaken rfl

theorem not_mem (h : Assigned taken source kind v id warnings rest) : id ∉ taken := by
  cases h with
  | own hid hnew => exact hnew
  | fresh htaken hfresh =>
    have hfree := source.fresh_not_mem kind.name taken
    rwa [hfresh] at hfree

theorem ne_empty (h : Assigned taken source kind v id warnings rest) : id ≠ "" := by
  cases h with
  | own hid => exact (ownId?_eq_some.mp hid).2
  | fresh htaken hfresh =>
    have hne := source.fresh_ne_empty kind.name taken
    rwa [hfresh] at hne

/-- The id is drawn from the source only where there is no other one. -/
theorem exists_skip (h : Assigned taken source kind v id warnings rest) :
    ∃ n, rest = source.skip n ∧ (∀ own, ownId? v = some own → own ∉ taken → id = own) ∧
      ((∀ own, ownId? v = some own → own ∈ taken) → ∃ k < n, id = source.nth kind.name k) := by
  cases h with
  | own hid hnew =>
    refine ⟨0, rfl, fun own hown _ => ?_, fun htaken => absurd (htaken _ hid) hnew⟩
    rw [hid] at hown
    exact Option.some.inj hown
  | fresh htaken hfresh =>
    obtain ⟨k, -, -, -, heq⟩ := source.fresh_spec kind.name taken
    rw [hfresh, Prod.mk.injEq] at heq
    refine ⟨k + 1, heq.2, fun own hown hnew => absurd (htaken own hown) hnew, fun _ => ?_⟩
    exact ⟨k, Nat.lt_succ_self k, heq.1⟩

/-- There is one warning if the id is not the stored one, and it names that one. -/
theorem filterMap_replacedId? (h : Assigned taken source kind v id warnings rest) :
    warnings.filterMap Warning.replacedId? =
      (((ownId? v).filter (· ≠ id)).map Json.str).toList := by
  have hnew := h.not_mem
  cases h with
  | own hid => simp [hid]
  | fresh htaken =>
    cases hown : ownId? v with
    | none => rfl
    | some own =>
      have hne : own ≠ id := fun heq => hnew (heq ▸ htaken own hown)
      rw [Option.filter_some_pos (by simpa using hne)]
      rfl

theorem filterMap_skippedType? (h : Assigned taken source kind v id warnings rest) :
    warnings.filterMap Warning.skippedType? = [] := by
  cases h with
  | own => rfl
  | fresh => cases ownId? v <;> rfl

end Assigned

/-- The warnings of a content are of two forms only. -/
theorem filterMap_keptContent {f : Warning → Option Json}
    (hunreadable : ∀ id, f (.unreadableContent id) = none)
    (hinvalid : ∀ name id, f (.invalidAttribute name id) = none) (kind : Kind) (id content : Json) :
    (keptContent settings kind id content).2.filterMap f = [] := by
  cases content with
  | obj members =>
    induction members with
    | nil => rfl
    | cons m members ih =>
      obtain ⟨name, value⟩ := m
      simp only [keptContent, keptMembers] at ih ⊢
      split
      · exact ih
      · split
        · exact ih
        · rw [List.filterMap_cons_none (hinvalid name id), ih]
  | null => rfl
  | _ => exact List.filterMap_cons_none (hunreadable id)

/-! ### A run of repairs -/

/-- What is read of stored blocks that have been repaired one after the other, from some taken ids
and a source on: the blocks, the warnings and the source that is left. -/
inductive Rebuilt (settings : Settings) :
    List String → IdSource → List Json → List Block → List Warning → IdSource → Prop
  | done {taken : List String} {source : IdSource} : Rebuilt settings taken source [] [] [] source
  | skipped {taken : List String} {source rest : IdSource} {v : Json} {items : List Json}
      {blocks : List Block} {warnings : List Warning} (hkind : ¬HasKind v)
      (h : Rebuilt settings taken source items blocks warnings rest) :
      Rebuilt settings taken source (v :: items) blocks
        (.skippedBlock (memberOf v "type") :: warnings) rest
  | kept {taken : List String} {source ids rest : IdSource} {o : Json.Object} {block : Block}
      {items : List Json} {blocks : List Block} {assigned warnings : List Warning}
      (hkeeps : Keeps settings o block)
      (hid : Assigned taken source block.kind (.obj o) block.id assigned ids)
      (h : Rebuilt settings (taken ++ [block.id]) ids items blocks warnings rest) :
      Rebuilt settings taken source (.obj o :: items) (block :: blocks)
        (assigned ++ (keptContent settings block.kind (.str block.id) (contentOf o)).2 ++ warnings)
        rest

variable {r r' : Repair} {items : List Json}

/-- A stored block that is not at fault is left out or kept under the id that it is assigned. -/
theorem Outcome.assigned (h : Outcome settings r v (r', none)) (hseen : r.seen = taken.map .str)
    (hids : ¬Misidentified v) :
    (¬HasKind v ∧ r' = r.skip (memberOf v "type")) ∨
      ∃ kind o id warnings ids, v = .obj o ∧ member o "type" = .str kind.name ∧
        Assigned taken r.source kind v id warnings ids ∧
        r' = Repair.keep settings { r with source := ids, warnings := r.warnings ++ warnings }
          kind o (.str id) := by
  cases h with
  | skipped hkind => exact .inl ⟨hkind, rfl⟩
  | @kept kind o htype htruthy hscalar hnew =>
    obtain ⟨id, hid, hown⟩ := exists_ownId? (hasKind_of_type htype) hids htruthy
    have hid : member o "id" = .str id := hid
    rw [hid, hseen, any_sameKey_texts, decide_eq_false_iff_not] at hnew
    refine .inr ⟨kind, o, id, [], r.source, rfl, htype, .own hown hnew, ?_⟩
    rw [hid, List.append_nil]
  | @given kind o htype hfalsy =>
    have hown : ownId? (.obj o) = none := ownId?_eq_none hfalsy
    refine .inr ⟨kind, o, _, _, _, rfl, htype, .of_taken (by simp [hown]), ?_⟩
    rw [keepFresh_of_seen hseen, hown, Option.toList_none, List.map_nil, List.append_nil]
  | @replaced kind o htype htruthy hscalar hold =>
    obtain ⟨id, hid, hown⟩ := exists_ownId? (hasKind_of_type htype) hids htruthy
    have hid : member o "id" = .str id := hid
    rw [hid, hseen, any_sameKey_texts, decide_eq_true_eq] at hold
    refine .inr ⟨kind, o, _, _, _, rfl, htype, .of_taken (by simpa [hown] using hold), ?_⟩
    have hwarned : ({ r with warnings := r.warnings ++ [.replacedId (.str id)] } : Repair).seen =
      taken.map .str := hseen
    rw [hid, keepFresh_of_seen hwarned, hown]
    rfl

theorem repairBlocks_cons {vs : List Json} (h : repairBlocks settings r (v :: vs) = (r', none)) :
    ∃ r₁, repairBlock settings r v = (r₁, none) ∧ repairBlocks settings r₁ vs = (r', none) := by
  rw [repairBlocks] at h
  cases hrepair : repairBlock settings r v with
  | mk r₁ failure? =>
    rw [hrepair] at h
    cases failure? with
    | none => exact ⟨r₁, rfl, h⟩
    | some failure => cases h

/-- Repairs that go through, over blocks that are not at fault, are such a run. The blocks that they
keep are read as those of the run, at any position and without a draw. -/
theorem exists_rebuilt (hseen : r.seen = taken.map .str) (hids : ∀ v ∈ items, ¬Misidentified v)
    (h : repairBlocks settings r items = (r', none)) :
    ∃ entries blocks warnings,
      Rebuilt settings taken r.source items blocks warnings r'.source ∧
      r'.blocks = r.blocks ++ entries ∧ r'.warnings = r.warnings ++ warnings ∧
      ∀ position ids, Document.readBlocks settings position entries ids = (.ok blocks, ids) := by
  -- the ids so far are the taken ones, and each kept block adds its own
  induction items generalizing r taken with
  | nil =>
    cases h
    exact ⟨[], [], [], .done, (List.append_nil _).symm, (List.append_nil _).symm, fun _ _ => rfl⟩
  | cons v items ih =>
    rw [List.forall_mem_cons] at hids
    obtain ⟨r₁, hrepair, hrest⟩ := repairBlocks_cons h
    have hstep := repairBlock_outcome settings r v
    rw [hrepair] at hstep
    rcases hstep.assigned hseen hids.1 with
      ⟨hkind, rfl⟩ | ⟨kind, o, id, assigned, ids, rfl, htype, hid, rfl⟩
    · obtain ⟨entries, blocks, warnings, hrebuilt, hblocks, hwarnings, hread⟩ :=
        ih (r := r.skip (memberOf v "type")) hseen hids.2 hrest
      refine ⟨entries, blocks, _, .skipped hkind hrebuilt, hblocks, ?_, hread⟩
      exact hwarnings.trans (List.append_assoc _ _ _)
    · obtain ⟨block, rfl, rfl, hkeeps⟩ := exists_keeps settings htype id
      have hadded : (taken ++ [block.id]).map Json.str = r.seen ++ [.str block.id] := by
        rw [List.map_append, hseen]
        rfl
      obtain ⟨entries, blocks, warnings, hrebuilt, hblocks, hwarnings, hread⟩ :=
        ih hadded.symm hids.2 hrest
      let entry : Entry := ⟨.str block.id, block.kind,
        (keptContent settings block.kind (.str block.id) (contentOf o)).1⟩
      refine ⟨entry.toJson :: entries, block :: blocks, _, .kept hkeeps hid hrebuilt, ?_, ?_, ?_⟩
      · exact hblocks.trans (List.append_cons _ _ _).symm
      · simp only [hwarnings, Repair.keep, List.append_assoc]
      · intro position source
        exact Document.readBlocks_cons_eq_ok.mpr ⟨_, _, _,
          Block.readTagged_members hid.ne_empty hkeeps.attributes, hread _ _, rfl⟩

/-! ### What follows for the blocks -/

namespace Rebuilt

variable {blocks : List Block} {warnings : List Warning}

theorem exists_keeps (h : Rebuilt settings taken source items blocks warnings rest) :
    ∀ block ∈ blocks, ∃ o, .obj o ∈ items ∧ Keeps settings o block := by
  induction h with
  | done => exact List.forall_mem_nil _
  | skipped _ _ ih =>
    intro block hblock
    obtain ⟨o, ho, hkeeps⟩ := ih block hblock
    exact ⟨o, List.mem_cons_of_mem _ ho, hkeeps⟩
  | kept hkeeps _ _ ih =>
    refine List.forall_mem_cons.mpr ⟨⟨_, List.mem_cons_self, hkeeps⟩, fun block hblock => ?_⟩
    obtain ⟨o, ho, hkeeps⟩ := ih block hblock
    exact ⟨o, List.mem_cons_of_mem _ ho, hkeeps⟩

/-- Each stored block of a kind has become a block of that kind. -/
theorem types (h : Rebuilt settings taken source items blocks warnings rest) :
    (items.filter (HasKind ·)).map (memberOf · "type") =
      blocks.map fun block => .str block.kind.name := by
  induction h with
  | done => rfl
  | skipped hkind _ ih => rwa [List.filter_cons_of_neg (by simpa using hkind)]
  | kept hkeeps _ _ ih =>
    have hkind := hasKind_of_type hkeeps.type
    rw [List.filter_cons_of_pos (by simpa using hkind), List.map_cons, List.map_cons, ih]
    exact congrArg (· :: _) hkeeps.type

theorem filterMap_replacedId? (h : Rebuilt settings taken source items blocks warnings rest) :
    warnings.filterMap Warning.replacedId? =
      ((items.filter (HasKind ·)).zip blocks).filterMap fun p =>
        ((ownId? p.1).filter (· ≠ p.2.id)).map Json.str := by
  induction h with
  | done => rfl
  | skipped hkind _ ih => rwa [List.filter_cons_of_neg (by simpa using hkind)]
  | @kept _ _ _ _ o block _ _ _ _ hkeeps hid _ ih =>
    have hkind := hasKind_of_type hkeeps.type
    have hcontent : (keptContent settings block.kind (.str block.id) (contentOf o)).2.filterMap
        Warning.replacedId? = [] := filterMap_keptContent (fun _ => rfl) (fun _ _ => rfl) _ _ _
    rw [List.filter_cons_of_pos (by simpa using hkind), List.zip_cons_cons, List.filterMap_append,
      List.filterMap_append, hid.filterMap_replacedId?, hcontent, ih, List.append_nil,
      List.filterMap_cons]
    cases ((ownId? (.obj o)).filter (· ≠ block.id)).map Json.str <;> rfl

theorem filterMap_skippedType? (h : Rebuilt settings taken source items blocks warnings rest) :
    warnings.filterMap Warning.skippedType? =
      (items.filter (¬HasKind ·)).map (memberOf · "type") := by
  induction h with
  | done => rfl
  | skipped hkind _ ih =>
    rw [List.filter_cons_of_pos (by simpa using hkind), List.map_cons, ← ih]
    rfl
  | @kept _ _ _ _ o block _ _ _ _ hkeeps hid _ ih =>
    have hkind := hasKind_of_type hkeeps.type
    have hcontent : (keptContent settings block.kind (.str block.id) (contentOf o)).2.filterMap
        Warning.skippedType? = [] := filterMap_keptContent (fun _ => rfl) (fun _ _ => rfl) _ _ _
    rw [List.filter_cons_of_neg (by simpa using hkind), List.filterMap_append,
      List.filterMap_append, hid.filterMap_skippedType?, hcontent, ih]
    rfl

end Rebuilt

/-- A block comes from a stored one: it keeps what it can, and its id as well, unless that is the
id of an earlier block. In that case and where there is none, its id is one of the first `n` that
the source gives, and in any case it differs from the earlier ones. -/
structure Restored (settings : Settings) (source : IdSource) (n : Nat) (earlier : List String)
    (v : Json) (block : Block) : Prop where
  keeps : ∃ o, v = .obj o ∧ Keeps settings o block
  own : ∀ id, ownId? v = some id → id ∉ earlier → block.id = id
  drawn : (∀ id, ownId? v = some id → id ∈ earlier) →
    ∃ k < n, block.id = source.nth block.kind.name k
  new : block.id ∉ earlier

/-- The draws for the blocks before do not matter. -/
theorem Restored.of_skip {j n : Nat} (h : Restored settings (source.skip j) n taken v block) :
    Restored settings source (j + n) taken v block where
  keeps := h.keeps
  own := h.own
  drawn := by
    intro htaken
    obtain ⟨k, hk, hid⟩ := h.drawn htaken
    exact ⟨j + k, Nat.add_lt_add_left hk j, by rw [hid, IdSource.nth_skip]⟩
  new := h.new

theorem Rebuilt.restored {blocks : List Block} {warnings : List Warning}
    (h : Rebuilt settings taken source items blocks warnings rest) :
    ∃ n, rest = source.skip n ∧
      ∀ i v block, (items.filter (HasKind ·))[i]? = some v → blocks[i]? = some block →
        Restored settings source n (taken ++ (blocks.take i).map (·.id)) v block := by
  induction h with
  | done => exact ⟨0, rfl, fun i v block hv => absurd hv (by simp)⟩
  | skipped hkind _ ih => rwa [List.filter_cons_of_neg (by simpa using hkind)]
  | @kept taken source ids rest o block items blocks _ _ hkeeps hid _ ih =>
    have hkind := hasKind_of_type hkeeps.type
    rw [List.filter_cons_of_pos (by simpa using hkind)]
    obtain ⟨j, rfl, hown, hdrawn⟩ := hid.exists_skip
    obtain ⟨n, hrest, hlater⟩ := ih
    refine ⟨j + n, by rw [hrest, IdSource.skip_skip], fun i v b hv hb => ?_⟩
    cases i with
    | zero =>
      obtain rfl : .obj o = v := Option.some.inj hv
      obtain rfl : block = b := Option.some.inj hb
      rw [List.take_zero, List.map_nil, List.append_nil]
      refine ⟨⟨o, rfl, hkeeps⟩, hown, fun htaken => ?_, hid.not_mem⟩
      obtain ⟨k, hk, heq⟩ := hdrawn htaken
      exact ⟨k, Nat.lt_add_right n hk, heq⟩
    | succ i =>
      rw [List.take_succ_cons, List.map_cons, List.append_cons]
      exact (hlater i v b hv hb).of_skip

/-! ### Loaded documents -/

/-- A loaded document comes from a run of repairs over all stored blocks. -/
theorem exists_rebuilt_of_load {d : Document}
    (h : (Document.load settings v source).result = .ok d) :
    ∃ o items warnings rest, v = .obj o ∧ Stored.items (member o "blocks") = .ok items ∧
      Rebuilt settings [] source items d.blocks warnings rest ∧
      Document.load settings v source = ⟨.ok d, rest, warnings⟩ := by
  obtain ⟨o, items, r, rest, rfl, hitems, hrepair, hread, hload⟩ := Document.exists_repair_of_load h
  have hids : ∀ v ∈ items, ¬Misidentified v := by
    cases load_judgement hitems settings source with
    | stopped _ hresult => cases hresult.symm.trans h
    | invalid _ _ _ hresult => cases hresult.symm.trans h
    | loaded _ hids => exact fun v hv hbad => hids ⟨v, hv, hbad⟩
  have hseen : (⟨[], [], source, []⟩ : Repair).seen = ([] : List String).map .str := rfl
  obtain ⟨entries, blocks, warnings, hrebuilt, hentries, hwarnings, hblocks⟩ :=
    exists_rebuilt hseen hids hrepair
  -- the kept blocks are read without a draw, so the source is that of the repairs
  have hread := (Document.ofObject_members_eq_ok.mp hread).1
  rw [hentries, List.nil_append, hblocks, Prod.mk.injEq, Except.ok.injEq] at hread
  obtain ⟨rfl, rfl⟩ := hread
  refine ⟨o, items, warnings, _, rfl, hitems, hrebuilt, ?_⟩
  rw [hload, hwarnings, List.nil_append]

end Stored

namespace Document

/-- Loading keeps every stored block of a kind, in order. Ids are neither empty nor repeated: that
of a stored block is kept unless an earlier block has it, and all other ids are drawn from the
source and new. There is one warning for each id that is replaced, and one for each item that is
left out. -/
theorem load_repairs_ids {v : Json} {d : Document} (h : (load settings v source).result = .ok d) :
    let loading := load settings v source
    ∃ o items n, v = .obj o ∧ Stored.items (Stored.member o "blocks") = .ok items ∧
      let stored := items.filter (Stored.HasKind ·)
      stored.map (Stored.memberOf · "type") = d.blocks.map (fun block => .str block.kind.name) ∧
      d.ids.Nodup ∧ "" ∉ d.ids ∧
      (∀ i w block, stored[i]? = some w → d.blocks[i]? = some block →
        Stored.Restored settings source n (d.ids.take i) w block) ∧
      loading.source = source.skip n ∧
      loading.warnings.filterMap Warning.replacedId? =
        (stored.zip d.blocks).filterMap (fun p =>
          ((Stored.ownId? p.1).filter (· ≠ p.2.id)).map Json.str) ∧
      loading.warnings.filterMap Warning.skippedType? =
        (items.filter (¬Stored.HasKind ·)).map (Stored.memberOf · "type") := by
  intro loading
  obtain ⟨o, items, warnings, rest, rfl, hitems, hrebuilt, hload⟩ :=
    Stored.exists_rebuilt_of_load h
  obtain ⟨n, hsource, hrestored⟩ := hrebuilt.restored
  have hsound := sound_load h
  have hloading : loading = ⟨.ok d, rest, warnings⟩ := hload
  refine ⟨o, items, n, rfl, hitems, hrebuilt.types, hsound.nodup, hsound.ne_empty, ?_, ?_, ?_, ?_⟩
  · intro i w block hw hblock
    rw [ids, ← List.map_take]
    exact hrestored i w block hw hblock
  · rw [hloading, hsource]
  · rw [hloading, hrebuilt.filterMap_replacedId?]
  · rw [hloading, hrebuilt.filterMap_skippedType?]

/-- A spacer that draws its id draws it past the id of the first one. Then the id of the last one is
taken, and as the script is at its end, the third draw is counted. -/
theorem load_repairs_ids_spacers :
    let settings : Settings := ⟨2024, "", "", ""⟩
    let spacer : Json.Object → Json := fun o => .obj (("type", .str "spacer") :: o)
    let v : Json := .obj [("blocks", .arr [.int 5, spacer [("id", .str "spacer-a")],
      spacer [("content", .obj [("height", .null), ("note", .int 1)])],
      .obj [("type", .str "columns"), ("id", .str "spacer-a")],
      spacer [("id", .str "spacer-b"), ("content", .str "x")]])]
    let source : IdSource := ⟨["a", "b"], 0⟩
    let block : String → Json.Object → Block := fun id extra => ⟨id, ⟨.spacer (.int 32), extra⟩⟩
    let d : Document := ⟨[block "spacer-a" [], block "spacer-b" [("note", .int 1)],
      block "spacer-000000000003" []], .standard⟩
    let loading := load settings v source
    loading.result = .ok d ∧ (∃ n, loading.source = source.skip n ∧
      ∃ k < n, "spacer-000000000003" = source.nth "spacer" k) ∧
      loading.warnings.filterMap Warning.replacedId? = [.str "spacer-b"] ∧
      loading.warnings.filterMap Warning.skippedType? = [.null, .str "columns"] := by
  intro settings spacer v source block d loading
  have h : loading.result = .ok d := by decide
  obtain ⟨o, items, n, hv, hitems, -, -, -, hrestored, hsource, hreplaced, hskipped⟩ :=
    load_repairs_ids h
  obtain rfl := Json.obj.inj hv
  obtain rfl := Except.ok.inj hitems
  have hlast := hrestored 2 _ (block "spacer-000000000003" []) rfl rfl
  refine ⟨h, ⟨n, hsource, hlast.drawn fun id hid => ?_⟩, hreplaced.trans (by rfl),
    hskipped.trans (by rfl)⟩
  obtain rfl := Option.some.inj hid
  decide

end Document
end MailTemplate
