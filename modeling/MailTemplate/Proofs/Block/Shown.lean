import MailTemplate.Block.Loose
import MailTemplate.Proofs.Html.Fragments

/-!
# Which blocks are shown

Almost any values can be shown as text. A block is shown as a row of its kind unless its type is no
kind, its row looks up a value that cannot be looked up, or it goes through a value without items.
Beside that, only values that cannot be written keep a block from being shown.

* `LooseBlock.Inert`: these three cases;
* `LooseBlock.Inert.row?_eq_none` and `exists_row?`: blocks of a kind without a row and with one;
* `LooseBlock.row?_ofBlock`: a block that has been checked shows what its content shows;
* `LooseBlock.shown_or_inert`: a row and no warning, or a comment and one warning.
-/

namespace MailTemplate

/-- Null, a boolean or a number: a value without items. -/
def Json.isItemless : Json → Bool
  | .null => true
  | .bool _ => true
  | .int _ => true
  | .float _ => true
  | _ => false

/-- The kind of block that a row shows. -/
def Row.kind : Row → Kind
  | header .. => .header
  | heading .. => .heading
  | paragraph .. => .paragraph
  | image .. => .image
  | button .. => .button
  | divider .. => .divider
  | spacer .. => .spacer
  | list .. => .list
  | footer .. => .footer

theorem Json.Object.map_find?_single (o : Object) (name : String) :
    (o.find? { wire := name }).map (·.2) = o.get? name := by
  unfold find?
  cases o.get? name <;> rfl

theorem Pixels.css?_toJson (p : Pixels) : p.toJson.css? = p.css? := by
  cases p <;> rfl

namespace LooseBlock

variable {settings : Settings} {id : Json} {kind : Kind} {content : Json.Object} {row : Row}

/-- A block in whose place a comment stands. -/
inductive Inert : LooseBlock → Prop
  /-- The type is no kind. -/
  | unknownType {block : LooseBlock} (h : ∀ kind : Kind, block.type ≠ kind.name) : Inert block
  /-- The level of a heading is an array or an object. -/
  | level {id v : Json} {content : Json.Object} (h : content.get? "level" = some v)
      (hv : v.isScalar = false) : Inert (.ofKind id .heading content)
  /-- The items of a list are null, a boolean or a number. -/
  | items {id v : Json} {content : Json.Object} (h : content.get? "items" = some v)
      (hv : v.isItemless = true) : Inert (.ofKind id .list content)

/-! ### Rows of unchecked blocks -/

theorem level?_eq_none_iff {v : Json} : level? v = none ↔ v.isScalar = false := by
  cases h : v.isScalar <;> simp [level?, h]

theorem items?_eq_none_iff {v : Json} : items? v = none ↔ v.isItemless = true := by
  cases v <;> simp [items?, Json.isItemless]

theorem value_level (settings : Settings) (content : Json.Object) :
    value (declared settings .heading content) "level" = (content.get? "level").getD (.str "h2") := by
  rw [← Json.Object.map_find?_single]
  rfl

theorem value_items (settings : Settings) (content : Json.Object) :
    value (declared settings .list content) "items" =
      (content.get? "items").getD (.arr (["Item 1", "Item 2", "Item 3"].map .str)) := by
  rw [← Json.Object.map_find?_single]
  rfl

/-- A level that is not given can be looked up. -/
theorem level?_value_eq_none_iff (settings : Settings) :
    level? (value (declared settings .heading content) "level") = none ↔
      ∃ v, content.get? "level" = some v ∧ v.isScalar = false := by
  rw [level?_eq_none_iff, value_level]
  cases content.get? "level" <;> simp [Json.isScalar]

theorem items?_value_eq_none_iff (settings : Settings) :
    items? (value (declared settings .list content) "items") = none ↔
      ∃ v, content.get? "items" = some v ∧ v.isItemless = true := by
  rw [items?_eq_none_iff, value_items]
  cases content.get? "items" <;> simp [Json.isItemless]

/-- The level or the items of an inert block of a kind are given. -/
theorem inert_ofKind_iff :
    (ofKind id kind content).Inert ↔
      (kind = .heading ∧ ∃ v, content.get? "level" = some v ∧ v.isScalar = false) ∨
      (kind = .list ∧ ∃ v, content.get? "items" = some v ∧ v.isItemless = true) := by
  constructor
  · intro h
    cases h with
    | unknownType h => exact absurd rfl (h kind)
    | level h hv => exact .inl ⟨rfl, _, h, hv⟩
    | items h hv => exact .inr ⟨rfl, _, h, hv⟩
  · rintro (⟨rfl, v, h, hv⟩ | ⟨rfl, v, h, hv⟩)
    · exact .level h hv
    · exact .items h hv

theorem Inert.row?_eq_none (settings : Settings) (h : (ofKind id kind content).Inert) :
    (ofKind id kind content).row? settings = none := by
  rcases inert_ofKind_iff.mp h with ⟨rfl, hlevel⟩ | ⟨rfl, hitems⟩
  · rw [row?, rowOfFields?, (level?_value_eq_none_iff settings).mpr hlevel]
    rfl
  · rw [row?, rowOfFields?, (items?_value_eq_none_iff settings).mpr hitems]
    rfl

section Writable

variable {fields : Json.Object}

theorem writable_value (h : ∀ m ∈ fields, m.2.Writable) (name : String) :
    (value fields name).Writable := Stored.writable_member h name

theorem exists_shown? (h : ∀ m ∈ fields, m.2.Writable) (name : String) :
    ∃ s, shown? fields name = some s :=
  Option.isSome_iff_exists.mp (Json.isSome_display?.mpr (writable_value h name))

theorem exists_filled? (h : ∀ m ∈ fields, m.2.Writable) (name : String) :
    ∃ s, filled? fields name = some s := by
  obtain ⟨s, hs⟩ := exists_shown? h name
  unfold filled?
  split
  · exact ⟨some s, by rw [hs, Option.map_some]⟩
  · exact ⟨none, rfl⟩

theorem exists_css? (h : ∀ m ∈ fields, m.2.Writable) (name : String) :
    ∃ s, (value fields name).css? = some s :=
  Option.isSome_iff_exists.mp (Json.isSome_css?.mpr (writable_value h name))

theorem writable_items? {v : Json} (hv : v.Writable) {items : List Json}
    (h : items? v = some items) : ∀ w ∈ items, w.Writable := by
  cases v with
  | arr values =>
    cases h
    exact Json.writable_arr_iff.mp hv
  | str s =>
    cases h
    exact List.forall_mem_map.mpr fun c _ => Json.writable_str _
  | obj members =>
    cases h
    exact List.forall_mem_map.mpr fun m _ => Json.writable_str m.1
  | _ => contradiction

theorem exists_texts? {items : List Json} (h : ∀ v ∈ items, v.Writable) :
    ∃ texts, texts? items = some texts := by
  induction items with
  | nil => exact ⟨[], rfl⟩
  | cons v items ih =>
    obtain ⟨hv, hitems⟩ := List.forall_mem_cons.mp h
    obtain ⟨s, hs⟩ := Option.isSome_iff_exists.mp (Json.isSome_display?.mpr hv)
    obtain ⟨texts, htexts⟩ := ih hitems
    rw [texts?] at htexts
    exact ⟨s :: texts, by rw [texts?, List.mapM_cons, hs, htexts]; rfl⟩

theorem writable_declared (settings : Settings) (kind : Kind)
    (h : ∀ m ∈ content, m.2.Writable) : ∀ m ∈ declared settings kind content, m.2.Writable := by
  have hdefaults : ∀ m ∈ Record.toObject kind.fields (kind.defaults settings), m.2.Writable :=
    Content.writable_ofRecord.mp (Attributes.writable_standard settings kind).content
  intro m hm
  obtain ⟨i, hi, rfl⟩ := List.mem_iff_getElem.mp hm
  simp only [declared, List.getElem_zipWith]
  exact Json.writable_getD (fun _ hv => Json.Object.writable_of_find? h hv)
    (hdefaults _ (List.getElem_mem _))

/-- A block of a kind has a row if its values can be written, unless it is inert. -/
theorem exists_row? (settings : Settings) (hcontent : ∀ m ∈ content, m.2.Writable)
    (h : ¬ (ofKind id kind content).Inert) :
    ∃ row, (ofKind id kind content).row? settings = some row := by
  have hfields := writable_declared settings kind hcontent
  have hshown := exists_shown? hfields
  have hfilled := exists_filled? hfields
  have hcss := exists_css? hfields
  rw [row?]
  cases kind with
  | header =>
    obtain ⟨title, htitle⟩ := hshown "title"
    obtain ⟨subtitle, hsubtitle⟩ := hfilled "subtitle"
    exact ⟨_, by rw [rowOfFields?, htitle, hsubtitle]; rfl⟩
  | heading =>
    obtain ⟨color, hcolor⟩ := hshown "color"
    obtain ⟨text, htext⟩ := hshown "text"
    cases hlevel : level? (value (declared settings .heading content) "level") with
    | some level => exact ⟨_, by rw [rowOfFields?, hlevel, hcolor, htext]; rfl⟩
    | none =>
      have hgiven := (level?_value_eq_none_iff settings).mp hlevel
      exact absurd (inert_ofKind_iff.mpr (.inl ⟨rfl, hgiven⟩)) h
  | paragraph =>
    obtain ⟨fontSize, hfontSize⟩ := hcss "fontSize"
    obtain ⟨color, hcolor⟩ := hshown "color"
    obtain ⟨text, htext⟩ := hshown "text"
    exact ⟨_, by rw [rowOfFields?, hfontSize, hcolor, htext]; rfl⟩
  | image =>
    obtain ⟨url, hurl⟩ := hfilled "url"
    obtain ⟨alt, halt⟩ := hshown "alt"
    obtain ⟨width, hwidth⟩ := hcss "width"
    exact ⟨_, by rw [rowOfFields?, hurl, halt, hwidth]; rfl⟩
  | button =>
    obtain ⟨url, hurl⟩ := hshown "url"
    obtain ⟨color, hcolor⟩ := hshown "color"
    obtain ⟨text, htext⟩ := hshown "text"
    exact ⟨_, by rw [rowOfFields?, hurl, hcolor, htext]; rfl⟩
  | divider =>
    obtain ⟨margin, hmargin⟩ := hcss "margin"
    obtain ⟨color, hcolor⟩ := hshown "color"
    exact ⟨_, by rw [rowOfFields?, hmargin, hcolor]; rfl⟩
  | spacer =>
    obtain ⟨height, hheight⟩ := hcss "height"
    exact ⟨_, by rw [rowOfFields?, hheight]; rfl⟩
  | list =>
    obtain ⟨color, hcolor⟩ := hshown "color"
    cases hitems : items? (value (declared settings .list content) "items") with
    | some items =>
      obtain ⟨texts, htexts⟩ := exists_texts? (writable_items? (writable_value hfields _) hitems)
      exact ⟨.list color texts, by
        rw [rowOfFields?, hitems, hcolor, Option.bind_eq_bind, Option.bind_some, htexts]; rfl⟩
    | none =>
      have hgiven := (items?_value_eq_none_iff settings).mp hitems
      exact absurd (inert_ofKind_iff.mpr (.inr ⟨rfl, hgiven⟩)) h
  | footer =>
    obtain ⟨text, htext⟩ := hshown "text"
    exact ⟨_, by rw [rowOfFields?, htext]; rfl⟩

end Writable

theorem kind_of_row? (h : (ofKind id kind content).row? settings = some row) : row.kind = kind := by
  cases kind <;> simp [row?, rowOfFields?, Option.bind_eq_some_iff] at h <;> grind [Row.kind]

/-- Only a block whose type is no kind is read as a block of no kind. -/
theorem type_ne_name_of_read {v : Json} {source rest : IdSource} {block : UntypedBlock}
    (h : read v source = (.ok (.untyped block), rest)) (kind : Kind) : block.type ≠ kind.name := by
  unfold read at h
  split at h
  · rename_i o
    split at h
    · simp at h
    · rename_i type _
      split at h
      · obtain ⟨_, -, hsame⟩ := map_eq_ok.mp (Prod.mk.inj h).1
        contradiction
      · rename_i unknown hresolve
        obtain ⟨_, hblock, ⟨⟩⟩ := map_eq_ok.mp (Prod.mk.inj h).1
        obtain ⟨⟨_, type', _⟩, hfields, rfl⟩ := map_eq_ok.mp (Checked.orInvalid_eq_ok.mp hblock)
        obtain ⟨htype, -⟩ := Checked.both_eq_ok.mp (Checked.both_eq_ok.mp hfields).2
        have htext : type = .str type' :=
          Json.asText_eq_ok.mp (Checked.under_eq_ok.mp htype)
        rintro rfl
        rw [htext, Kind.resolve_eq_ok.mpr rfl] at hresolve
        contradiction
      · simp at h
  · simp at h

theorem writable_of_read {v : Json} (hv : v.Writable) {source rest : IdSource}
    (h : read v source = (.ok (ofKind id kind content), rest)) : ∀ m ∈ content, m.2.Writable := by
  unfold read at h
  split at h
  · rename_i o
    split at h
    · simp at h
    · split at h
      · obtain ⟨_, hcontent, hsame⟩ := map_eq_ok.mp (Prod.mk.inj h).1
        obtain ⟨-, -, rfl⟩ := ofKind.inj hsame
        unfold contentOf at hcontent
        split at hcontent
        · cases hcontent
          exact List.forall_mem_nil _
        · rename_i values hget
          rw [(Json.namedValues_eq_ok.mp hcontent).1] at hget
          exact Json.writable_obj_iff.mp
            (Json.writable_obj_iff.mp hv _ (Json.Object.mem_of_get? hget))
      · obtain ⟨_, -, hsame⟩ := map_eq_ok.mp (Prod.mk.inj h).1
        contradiction
      · simp at h
  · simp at h

/-! ### Rows of checked blocks -/

/-- A block that has been checked, as one that has not been. -/
def ofBlock (block : Block) : LooseBlock :=
  .ofKind (.str block.id) block.kind block.attributes.toObject

theorem declared_toObject (settings : Settings) (kind : Kind) (record : Record kind.fields)
    (extra : Json.Object) :
    declared settings kind (Record.toObject kind.fields record ++ extra) =
      Record.toObject kind.fields record := by
  cases kind <;> rfl

/-- A text is shown unless it is empty. -/
theorem filled?_of_value {fields : Json.Object} {name s : String}
    (h : value fields name = .str s) : filled? fields name = some (nonempty? s) := by
  rw [filled?, shown?, h, nonempty?]
  by_cases hs : s = "" <;> simp [Json.isTruthy, Json.display?, hs]

theorem texts?_texts (items : List String) : texts? (items.map .str) = some items := by
  induction items with
  | nil => rfl
  | cons item items ih =>
    rw [texts?] at ih
    rw [texts?, List.map_cons, List.mapM_cons, ih]
    rfl

/-- A block that has been checked shows what its content shows. -/
theorem row?_ofBlock (settings : Settings) (block : Block) :
    (ofBlock block).row? settings = block.attributes.content.row? settings := by
  obtain ⟨id, content, extra⟩ := block
  have hrow : (ofBlock ⟨id, content, extra⟩).row? settings =
      rowOfFields? settings (Record.toObject content.kind.fields content.toRecord) content.kind :=
    congrArg (rowOfFields? settings · content.kind) (declared_toObject settings _ _ extra)
  rw [hrow]
  cases content with
  | header title subtitle =>
    change rowOfFields? settings [("title", .str title), ("subtitle", .str subtitle)] .header = _
    rw [rowOfFields?, filled?_of_value (rfl : value _ "subtitle" = .str subtitle)]
    rfl
  | paragraph text color size =>
    change rowOfFields? settings
      [("text", .str text), ("color", .str color), ("fontSize", size.toJson)] .paragraph = _
    have hsize : value [("text", .str text), ("color", .str color), ("fontSize", size.toJson)]
        "fontSize" = size.toJson := rfl
    rw [rowOfFields?, hsize, size.css?_toJson, Content.row?]
    cases size.css? <;> rfl
  | image url alt width =>
    change rowOfFields? settings
      [("url", .str url), ("alt", .str alt), ("width", width.toJson)] .image = _
    have hwidth : value [("url", .str url), ("alt", .str alt), ("width", width.toJson)] "width" =
        width.toJson := rfl
    rw [rowOfFields?, filled?_of_value (rfl : value _ "url" = .str url), hwidth,
      width.css?_toJson, Content.row?]
    cases width.css? <;> rfl
  | divider color margin =>
    change rowOfFields? settings [("color", .str color), ("margin", margin.toJson)] .divider = _
    have hmargin : value [("color", .str color), ("margin", margin.toJson)] "margin" =
        margin.toJson := rfl
    rw [rowOfFields?, hmargin, margin.css?_toJson, Content.row?]
    cases margin.css? <;> rfl
  | spacer height => exact congrArg (·.map Row.spacer) height.css?_toJson
  | list items color =>
    change rowOfFields? settings [("items", .arr (items.map .str)), ("color", .str color)] .list = _
    have hitems : items? (value [("items", .arr (items.map .str)), ("color", .str color)] "items") =
        some (items.map .str) := rfl
    rw [rowOfFields?, hitems, Option.bind_eq_bind, Option.bind_some, texts?_texts]
    rfl
  | _ => rfl

/-! ### Rows and comments -/

/-- A row from the start of its cell to its end. -/
def IsFullRow (text : String) : Prop := ∃ inner, text = "<tr><td style=" ++ inner ++ "</td></tr>"

theorem isFullRow_html (theme : Theme) (corners : String) (row : Row) :
    IsFullRow (row.html theme corners).toText := by
  obtain ⟨style, inner, h⟩ := row.exists_toText_eq theme
  refine ⟨"\"" ++ style ++ corners ++ "\">" ++ inner, (h corners).trans ?_⟩
  have hstart : "<tr><td style=\"" = "<tr><td style=" ++ "\"" := by decide
  simp only [hstart, String.append_assoc]

theorem html_of_row? (h : (ofKind id kind content).row? settings = some row) (theme : Theme)
    (position count : Int) :
    (ofKind id kind content).html settings theme position count =
      ((row.html theme (cornerRadius position count theme.borderRadius.val)).toText, []) := by
  rw [html, h]

theorem html_of_row?_eq_none {block : LooseBlock} (h : block.row? settings = none) (theme : Theme)
    (position count : Int) :
    block.html settings theme position count = (block.inertComment, [block.unshown]) := by
  rw [html, h]

theorem inertComment_eq (block : LooseBlock) :
    block.inertComment = "<!-- bloc ignoré : " ++ block.type ++ " -->" := by
  simp [inertComment, Html.inert, Html.Piece.text, String.append_assoc]

/-- A block that has been checked is shown in the same way as one that has not been. -/
theorem html_ofBlock (settings : Settings) (theme : Theme) (position count : Int) (block : Block) :
    ((ofBlock block).html settings theme position count).1 =
      (block.html settings theme position count).toText := by
  have hrow := row?_ofBlock settings block
  unfold Block.html
  cases hcontent : block.attributes.content.row? settings with
  | some row => rw [html, hrow, hcontent]
  | none =>
    rw [html_of_row?_eq_none (hrow.trans hcontent)]
    rfl

theorem not_inert_ofBlock (block : Block) : ¬ (ofBlock block).Inert := by
  obtain ⟨id, content, extra⟩ := block
  rw [ofBlock, inert_ofKind_iff]
  rintro (⟨hkind, v, hv, hlevel⟩ | ⟨hkind, v, hv, hitems⟩)
  · cases content <;> cases hkind
    cases hv
    contradiction
  · cases content <;> cases hkind
    cases hv
    contradiction

/-- The rows of a document are those of its blocks, shown as if they had not been checked. -/
theorem fragments_eq_map_html (settings : Settings) (d : Document) :
    d.fragments settings = (d.blocks.mapIdx fun i block =>
      (ofBlock block).html settings d.theme i d.blocks.length).map (·.1) := by
  refine List.ext_getElem? fun i => ?_
  rw [Document.getElem?_fragments, List.getElem?_map, List.getElem?_mapIdx, Option.map_map]
  exact Option.map_congr fun block _ => (html_ofBlock ..).symm

theorem html_ofBlock_of_writable (settings : Settings) (theme : Theme) (position count : Int)
    {block : Block} (h : block.attributes.content.Writable) :
    let html := (ofBlock block).html settings theme position count
    IsFullRow html.1 ∧ html.2 = [] := by
  obtain ⟨row, hrow⟩ := Option.isSome_iff_exists.mp ((Content.isSome_row?_iff settings).mpr h)
  have hhtml := html_of_row? ((row?_ofBlock settings block).trans hrow) theme position count
  rw [ofBlock, hhtml]
  exact ⟨isFullRow_html theme _ row, rfl⟩

/-- The values of a block may be of any type. In place of an inert block stands a comment, and there is
one warning; every other block is a full row of its kind, without a warning, if its values can be
written. No block that has been checked is inert, so that the page of a document holds a full row for
each of its blocks with lengths that can be written. -/
theorem shown_or_inert (settings : Settings) :
    (∀ (v : Json) (source rest : IdSource) (block : LooseBlock) (theme : Theme)
        (position count : Int), read v source = (.ok block, rest) →
      let html := block.html settings theme position count
      let comment := "<!-- bloc ignoré : " ++ block.type ++ " -->"
      (block.Inert ∧ html = (comment, [block.unshown])) ∨
      (¬ block.Inert ∧ IsFullRow html.1 ∧ ∃ row : Row, row.kind.name = block.type ∧
        html = ((row.html theme (cornerRadius position count theme.borderRadius.val)).toText, [])) ∨
      (¬ block.Inert ∧ ¬ v.Writable ∧ html = (comment, [block.unshown]))) ∧
    (∀ (block : Block) (theme : Theme) (position count : Int),
      let html := (ofBlock block).html settings theme position count
      ¬ (ofBlock block).Inert ∧ html.1 = (block.html settings theme position count).toText ∧
        (block.attributes.content.Writable → IsFullRow html.1 ∧ html.2 = [])) ∧
    ∀ (d : Document) (title : String),
      let shown := d.blocks.mapIdx fun i block =>
        (ofBlock block).html settings d.theme i d.blocks.length
      d.render settings title = (Document.head d.theme title).toText ++
        "\n".intercalate (shown.map (·.1)) ++ Document.tail.toText ∧
      ((∀ block ∈ d.blocks, block.attributes.content.Writable) →
        ∀ html ∈ shown, IsFullRow html.1 ∧ html.2 = []) := by
  refine ⟨?_, fun block theme position count => ?_, ?_⟩
  · intro v source rest block theme position count h html comment
    have hcomment (hrow : block.row? settings = none) : html = (comment, [block.unshown]) := by
      have hhtml := html_of_row?_eq_none hrow theme position count
      rwa [block.inertComment_eq] at hhtml
    cases block with
    | untyped block => exact .inl ⟨.unknownType (type_ne_name_of_read h), hcomment rfl⟩
    | ofKind id kind content =>
      by_cases hinert : (ofKind id kind content).Inert
      · exact .inl ⟨hinert, hcomment (hinert.row?_eq_none settings)⟩
      · refine .inr ?_
        cases hrow : (ofKind id kind content).row? settings with
        | some row =>
          have hhtml := html_of_row? hrow theme position count
          refine .inl ⟨hinert, ?_, row, congrArg Kind.name (kind_of_row? hrow), hhtml⟩
          simp only [html, hhtml]
          exact isFullRow_html theme _ row
        | none =>
          refine .inr ⟨hinert, fun hv => ?_, hcomment hrow⟩
          obtain ⟨row, hsome⟩ := exists_row? settings (writable_of_read hv h) hinert
          rw [hrow] at hsome
          contradiction
  · exact ⟨not_inert_ofBlock block, html_ofBlock settings theme position count block,
      html_ofBlock_of_writable settings theme position count⟩
  · intro d title shown
    refine ⟨?_, fun hwritable html hhtml => ?_⟩
    · rw [Document.render_eq, fragments_eq_map_html]
    · obtain ⟨i, hi, rfl⟩ := List.mem_mapIdx.mp hhtml
      exact html_ofBlock_of_writable settings d.theme _ _ (hwritable _ (List.getElem_mem hi))

/-- A heading whose level is an array is not shown. -/
theorem shown_or_inert_level :
    let settings : Settings := ⟨2024, "", "", ""⟩
    let v : Json := .obj
      [("type", .str "heading"), ("id", .str "h"), ("content", .obj [("level", .arr [])])]
    let block : LooseBlock := .ofKind (.str "h") .heading [("level", .arr [])]
    read v ⟨[], 0⟩ = (.ok block, ⟨[], 0⟩) ∧ block.Inert ∧
      block.html settings .standard 0 1 =
        ("<!-- bloc ignoré : heading -->", [.unshownBlock (.str "h") .heading]) := by
  intro settings v block
  have hread : read v ⟨[], 0⟩ = (.ok block, ⟨[], 0⟩) := by rfl
  have hinert : block.Inert := .level rfl rfl
  refine ⟨hread, hinert, ?_⟩
  obtain ⟨-, hhtml⟩ | ⟨hshown, -⟩ | ⟨hshown, -⟩ :=
    (shown_or_inert settings).1 _ _ _ _ .standard 0 1 hread
  · rw [hhtml]
    exact congrArg (·, [block.unshown]) (by decide)
  · exact absurd hinert hshown
  · exact absurd hinert hshown

end LooseBlock
end MailTemplate
