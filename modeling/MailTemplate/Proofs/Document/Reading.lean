import MailTemplate.Document
import MailTemplate.Proofs.Checked
import MailTemplate.Proofs.IdSource.Fresh

/-!
# When a document is read

One statement for each reader: when it gives a value, and which one.

* `Block.readId_eq_ok`, `Block.ofObject_eq_ok` and `Block.readTagged_eq_ok`: ids and blocks;
* `Document.readBlocks_cons_eq_ok`, `blocksOf_eq_ok` and `ofParts_eq_ok`: the parts of a document;
* `Document.ofObject_eq_ok`, `ofObject_members_eq_ok` and `read_eq_ok`: documents;
* `Document.exists_readTagged_of_ofObject`: where the blocks of a document have been read from.
-/

namespace MailTemplate

variable {settings : Settings} {source rest : IdSource}

namespace Json

theorem asText_eq_ok {v : Json} {s : String} : v.asText = .ok s ↔ v = .str s := by
  cases v <;> simp [asText, eq_comm, Checked.fail]

theorem asModel_eq_ok {model : String} {v : Json} {o : Object} :
    v.asModel model = .ok o ↔ v = .obj o := by
  cases v <;> simp [asModel, eq_comm, Checked.fail]

end Json

theorem Kind.asTagged_eq_ok {v : Json} {kind : Kind} {o : Json.Object} :
    Kind.asTagged v = .ok (kind, o) ↔ v = .obj o ∧ o.get? "type" = some (.str kind.name) := by
  unfold Kind.asTagged Json.asTagged
  cases v with
  | obj members =>
    simp only [Json.obj.injEq]
    split
    · rename_i hnone
      rw [iff_false_left Checked.fail_ne_ok]
      rintro ⟨rfl, htype⟩
      rw [hnone] at htype
      contradiction
    · rename_i tag htag
      split
      · -- names of kinds differ, so that the kind found is the one named
        rename_i found hfound
        have hname : tag = .str found.name := by simpa using List.find?_some hfound
        rw [Except.ok.injEq, Prod.mk.injEq]
        constructor
        · rintro ⟨rfl, rfl⟩
          exact ⟨rfl, hname ▸ htag⟩
        · rintro ⟨rfl, htype⟩
          rw [htag, hname, Option.some.injEq, Json.str.injEq] at htype
          exact ⟨name_injective htype, rfl⟩
      · rename_i hnone
        rw [iff_false_left Checked.fail_ne_ok]
        rintro ⟨rfl, htype⟩
        rw [htag, Option.some.injEq] at htype
        simpa [htype] using List.find?_eq_none.mp hnone kind kind.mem_all
  | _ => simp

/-! ### Blocks -/

namespace Block

variable {kind : Kind} {o : Json.Object} {block : Block}

/-- An id is a text that is there and not empty, or it is drawn. -/
theorem readId_eq_ok {word id : String} :
    readId word o source = (.ok id, rest) ↔
      (o.get? "id" = some (.str id) ∧ id ≠ "" ∧ source = rest) ∨
      ((∀ v, o.get? "id" = some v → v.isTruthy = false) ∧ source.draw word = (id, rest)) := by
  unfold readId
  cases hid : o.get? "id" with
  | none => simp [Prod.ext_iff]
  | some v =>
    by_cases htruthy : v.isTruthy = true
    · rw [Option.filter_some_pos htruthy]
      simp only [Prod.mk.injEq, Checked.under_eq_ok, Json.asText_eq_ok, Option.some.injEq,
        forall_eq', htruthy, Bool.true_eq_false, false_and, or_false]
      constructor
      · rintro ⟨rfl, rfl⟩
        exact ⟨rfl, by simpa [Json.isTruthy] using htruthy, rfl⟩
      · rintro ⟨rfl, -, rfl⟩
        exact ⟨rfl, rfl⟩
    · rw [Bool.not_eq_true] at htruthy
      rw [Option.filter_some_neg htruthy]
      simp only [Prod.ext_iff, Except.ok.injEq, Option.some.injEq, forall_eq', htruthy, true_and]
      constructor
      · exact .inr
      · rintro (⟨rfl, hid, -⟩ | h)
        · simp [Json.isTruthy, hid] at htruthy
        · exact h

theorem readId_ne_empty {word id : String} (h : readId word o source = (.ok id, rest)) :
    id ≠ "" := by
  rcases readId_eq_ok.mp h with ⟨-, hid, -⟩ | ⟨-, hdraw⟩
  · exact hid
  · have hne := source.draw_ne_empty word
    rwa [hdraw] at hne

theorem ofObject_eq_ok :
    ofObject settings kind o source = (.ok block, rest) ↔
      readId kind.name o source = (.ok block.id, rest) ∧
      o.optional attributesName (.standard settings kind) (Attributes.read settings kind) =
        .ok block.attributes := by
  obtain ⟨id, attributes⟩ := block
  unfold ofObject
  cases readId kind.name o source with
  | mk result ids =>
    simp only [Prod.mk.injEq, map_eq_ok, Checked.both_eq_ok, Prod.exists, mk.injEq]
    constructor
    · rintro ⟨⟨_, _, ⟨hid, hattributes⟩, rfl, rfl⟩, rfl⟩
      exact ⟨⟨hid, rfl⟩, hattributes⟩
    · rintro ⟨⟨hid, rfl⟩, hattributes⟩
      exact ⟨⟨id, attributes, ⟨hid, hattributes⟩, rfl, rfl⟩, rfl⟩

theorem readTagged_eq_ok {v : Json} :
    readTagged settings v source = (.ok block, rest) ↔
      ∃ kind o, Kind.asTagged v = .ok (kind, o) ∧
        ofObject settings kind o source = (.ok block, rest) := by
  unfold readTagged
  cases Kind.asTagged v with
  | error issues => simp
  | ok tagged =>
    obtain ⟨kind, o⟩ := tagged
    simp only [Except.ok.injEq, Prod.ext_iff, Checked.under_eq_ok]
    constructor
    · exact fun h => ⟨kind, o, ⟨rfl, rfl⟩, h⟩
    · rintro ⟨_, _, ⟨rfl, rfl⟩, h⟩
      exact h

/-- A block with an id, a kind and a content is read without a draw. -/
theorem readTagged_members {id : String} {content : Json.Object} {a : Attributes} (hid : id ≠ "")
    (h : Attributes.read settings kind (.obj content) = .ok a) :
    readTagged settings
        (.obj [("id", .str id), ("type", .str kind.name), ("content", .obj content)]) source =
      (.ok ⟨id, a⟩, source) := by
  refine readTagged_eq_ok.mpr ⟨kind, _, Kind.asTagged_eq_ok.mpr ⟨rfl, rfl⟩, ?_⟩
  refine ofObject_eq_ok.mpr ⟨readId_eq_ok.mpr (.inl ⟨rfl, hid, rfl⟩), ?_⟩
  exact Checked.under_eq_ok.mpr h

end Block

/-! ### Documents -/

namespace Document

variable {d : Document} {o : Json.Object} {blocks : List Block}

theorem readBlocks_cons_eq_ok {position : Nat} {v : Json} {vs : List Json} :
    readBlocks settings position (v :: vs) source = (.ok blocks, rest) ↔
      ∃ block bs ids, Block.readTagged settings v source = (.ok block, ids) ∧
        readBlocks settings (position + 1) vs ids = (.ok bs, rest) ∧ blocks = block :: bs := by
  rw [readBlocks]
  cases Block.readTagged settings v source with
  | mk result ids =>
    simp only
    cases hrest : readBlocks settings (position + 1) vs ids with
    | mk results ids' =>
      simp only [Prod.mk.injEq, map_eq_ok, Checked.both_eq_ok, Checked.under_eq_ok, Prod.exists]
      constructor
      · rintro ⟨⟨block, bs, ⟨hblock, hbs⟩, rfl⟩, rfl⟩
        exact ⟨block, bs, ids, ⟨hblock, rfl⟩, by rw [hrest, hbs], rfl⟩
      · rintro ⟨block, bs, _, ⟨hblock, rfl⟩, hbs, rfl⟩
        rw [hrest, Prod.mk.injEq] at hbs
        exact ⟨⟨block, bs, ⟨hblock, hbs.1⟩, rfl⟩, hbs.2⟩

theorem blocksOf_eq_ok :
    blocksOf settings o source = (.ok blocks, rest) ↔
      (o.get? "blocks" = none ∧ blocks = [] ∧ source = rest) ∨
      ∃ items, o.get? "blocks" = some (.arr items) ∧
        readBlocks settings 0 items source = (.ok blocks, rest) := by
  unfold blocksOf
  cases o.get? "blocks" with
  | none => simp [eq_comm]
  | some v =>
    cases v with
    | arr items =>
      cases h : readBlocks settings 0 items source with
      | mk result ids => simp [h]
    | _ => simp

theorem repeatedId?_eq_none {seen ids : List String} :
    repeatedId? seen ids = none ↔ ids.Nodup ∧ ∀ id ∈ ids, id ∉ seen := by
  induction ids generalizing seen with
  | nil => simp [repeatedId?]
  | cons id ids ih =>
    rw [repeatedId?, List.contains_eq_mem]
    by_cases hseen : id ∈ seen
    · simp [hseen]
    · simp only [hseen, decide_false, Bool.false_eq_true, ↓reduceIte, ih, List.nodup_cons]
      grind

theorem ofParts_eq_ok {parts : List Block × Theme} :
    ofParts parts = .ok d ↔ parts = (d.blocks, d.theme) ∧ d.ids.Nodup := by
  obtain ⟨blocks, theme⟩ := parts
  obtain ⟨blocks', theme'⟩ := d
  have hiff : repeatedId? [] (blocks.map (·.id)) = none ↔ (blocks.map (·.id)).Nodup := by
    simp [repeatedId?_eq_none]
  simp only [ofParts]
  cases h : repeatedId? [] (blocks.map (·.id)) with
  | none =>
    have hnodup := hiff.mp h
    simp only [Except.ok.injEq, mk.injEq, Prod.mk.injEq, ids]
    constructor
    · rintro ⟨rfl, rfl⟩
      exact ⟨⟨rfl, rfl⟩, hnodup⟩
    · exact fun h => h.1
  | some id =>
    rw [iff_false_left Checked.fail_ne_ok, Prod.mk.injEq]
    rintro ⟨⟨rfl, rfl⟩, hnodup⟩
    rw [hiff.mpr hnodup] at h
    contradiction

theorem ofObject_eq_ok :
    ofObject settings o source = (.ok d, rest) ↔
      blocksOf settings o source = (.ok d.blocks, rest) ∧
      o.optional themeName .standard Theme.read = .ok d.theme ∧ d.ids.Nodup := by
  unfold ofObject
  cases blocksOf settings o source with
  | mk result ids =>
    simp only [Prod.mk.injEq, bind_eq_ok, Checked.both_eq_ok, ofParts_eq_ok]
    constructor
    · rintro ⟨⟨_, ⟨hblocks, htheme⟩, rfl, hnodup⟩, rfl⟩
      exact ⟨⟨hblocks, rfl⟩, htheme, hnodup⟩
    · rintro ⟨⟨hblocks, rfl⟩, htheme, hnodup⟩
      exact ⟨⟨_, ⟨hblocks, htheme⟩, rfl, hnodup⟩, rfl⟩

/-- A document of an array and a theme is read part by part. -/
theorem ofObject_members_eq_ok {items : List Json} {theme : Json} :
    ofObject settings [("blocks", .arr items), ("designSettings", theme)] source = (.ok d, rest) ↔
      readBlocks settings 0 items source = (.ok d.blocks, rest) ∧ Theme.read theme = .ok d.theme ∧
      d.ids.Nodup := by
  have htheme : Json.Object.optional [("blocks", .arr items), ("designSettings", theme)] themeName
      .standard Theme.read = Checked.under (.key themeName.wire) (Theme.read theme) := rfl
  have hitems : Json.Object.get? [("blocks", .arr items), ("designSettings", theme)] "blocks" =
      some (.arr items) := rfl
  rw [ofObject_eq_ok, blocksOf_eq_ok, htheme, Checked.under_eq_ok, hitems]
  simp

/-- Each block of a list has been read from an item. -/
theorem exists_readTagged_of_readBlocks {position : Nat} {items : List Json}
    (h : readBlocks settings position items source = (.ok blocks, rest)) :
    ∀ block ∈ blocks, ∃ v ∈ items, ∃ before after,
      Block.readTagged settings v before = (.ok block, after) := by
  induction items generalizing position source blocks with
  | nil =>
    cases h
    exact List.forall_mem_nil _
  | cons v items ih =>
    obtain ⟨block, bs, ids, hblock, hbs, rfl⟩ := readBlocks_cons_eq_ok.mp h
    refine List.forall_mem_cons.mpr ⟨⟨v, List.mem_cons_self, source, ids, hblock⟩, fun b hb => ?_⟩
    obtain ⟨w, hw, hread⟩ := ih hbs b hb
    exact ⟨w, List.mem_cons_of_mem v hw, hread⟩

/-- Each block of a document has been read from an item of the member `blocks`. -/
theorem exists_readTagged_of_ofObject (h : ofObject settings o source = (.ok d, rest)) :
    ∀ block ∈ d.blocks, ∃ items, o.get? "blocks" = some (.arr items) ∧ ∃ v ∈ items,
      ∃ before after, Block.readTagged settings v before = (.ok block, after) := by
  rcases blocksOf_eq_ok.mp (ofObject_eq_ok.mp h).1 with ⟨-, hnil, -⟩ | ⟨items, hitems, hblocks⟩
  · rw [hnil]
    exact List.forall_mem_nil _
  · exact fun block hblock =>
      ⟨items, hitems, exists_readTagged_of_readBlocks hblocks block hblock⟩

theorem read_eq_ok {v : Json} :
    read settings v source = (.ok d, rest) ↔
      ∃ o, v = .obj o ∧ ofObject settings o source = (.ok d, rest) := by
  unfold read
  cases v <;> simp [Json.asModel, Checked.fail]

end Document
end MailTemplate
