import MailTemplate.Proofs.Document.Received
import MailTemplate.Proofs.Html.Sealed

/-!
# The placeholders of a page

A page has exactly the placeholders of the values that it shows.

* `Content.shown?`, `Block.shown` and `Document.shown`: the values that a row, a block and a page
  show, in order;
* `Row.sealed_html` and `Document.sealed_html`: rows and pages are sealed fragments;
* `Block.eraseDups_placeholders_html`: the placeholders of a block are those of the values shown;
* `names_render`: the names in a page are those in its values, one value at a time, and no
  placeholder straddles a seam of the page.
-/

namespace MailTemplate

open Placeholder Html

/-! ### What a page shows -/

/-- The values that the row of a content shows, in order, if it has one. -/
def Content.shown? (settings : Settings) (theme : Theme) : Content → Option (List String)
  | .header title subtitle =>
      some ([theme.primaryColor, theme.secondaryColor, title] ++
        if subtitle = "" then [] else [subtitle])
  | .heading text _ color => some [color, text]
  | .paragraph text color fontSize => fontSize.css?.map fun fontSize => [color, fontSize, text]
  | .image url alt width =>
      width.css?.map fun width =>
        [if url = "" then settings.placeholderImage else url, alt, width]
  | .button text url color => some [url, color, text]
  | .divider color margin => margin.css?.map fun margin => [margin, color]
  | .spacer height => height.css?.map fun height => [height]
  | .list items color => some (color :: items)
  | .footer text => some [theme.footerBackground, text]

/-- The values that a block shows: those of its row, or else its type. -/
def Block.shown (settings : Settings) (theme : Theme) (block : Block) : List String :=
  (block.attributes.content.shown? settings theme).getD [block.kind.name]

/-- The values that a page shows, in order: its title, those of its theme, those of its rows. -/
def Document.shown (settings : Settings) (d : Document) (title : String) : List String :=
  [title, d.theme.fontFamily, d.theme.backgroundColor, d.theme.contentBackground] ++
    d.blocks.flatMap (Block.shown settings d.theme)

/-- A content shows its values unless one of its lengths is an integer without a text. -/
theorem Content.isSome_shown?_iff (settings : Settings) (theme : Theme) {content : Content} :
    (content.shown? settings theme).isSome = true ↔ content.Writable := by
  rw [← isSome_row?_iff settings]
  cases content <;> simp [shown?, row?]

/-! ### Numbers and corners -/

theorem isPlain_of_isDigit {cs : List Char} (h : ∀ c ∈ cs, c.isDigit = true) :
    isPlain cs = true := by
  refine List.all_eq_true.mpr fun c hc => ?_
  have hdigit := h c hc
  rw [Bool.and_eq_true, decide_eq_true_eq, decide_eq_true_eq]
  constructor <;> rintro rfl <;> revert hdigit <;> decide

theorem isPlain_repr (n : Nat) : isPlain n.repr.toList = true := by
  rw [Nat.toList_repr]
  exact isPlain_of_isDigit fun c hc => Nat.isDigit_of_mem_toDigits (by decide) (by decide) hc

theorem isPlain_toString (n : Int) : isPlain (toString n).toList = true := by
  rw [Int.toString_eq_repr, Int.repr_eq_if]
  split
  · exact isPlain_repr _
  · rw [String.toList_append, isPlain_append, isPlain_repr]
    decide

theorem isPlain_cornerRadius (position count radius : Int) :
    isPlain (cornerRadius position count radius).toList = true := by
  have hr : isPlain (toString radius).toList = true := isPlain_toString radius
  unfold cornerRadius
  split
  · split <;> simp only [String.toList_append, isPlain_append, hr] <;> decide
  · split
    · simp only [String.toList_append, isPlain_append, hr]
      decide
    · decide

/-! ### Rows and pages are sealed -/

theorem Row.sealed_itemHtml (item : String) : Sealed (Row.itemHtml item) := by
  refine Sealed.of_isSealed ?_
  simp only [Row.itemHtml, isSealed]
  repeat rewrite [String.toList_ofList]
  decide

/-- The corners of a cell are no value, and they may be empty, so the check does without them. -/
theorem Row.isSealed_cell {style rest : Html} {corners : String}
    (hc : isPlain corners.toList = true)
    (h : isSealed false ([.markup "<tr><td style=\""] ++ style ++ (.markup "\">" :: rest)) = true) :
    isSealed false (cell style corners ++ rest) = true := by
  rw [cell, List.append_assoc _ _ rest]
  exact isSealed_insert hc h

/-- Every value of a row stands between two walls. -/
theorem Row.sealed_html (theme : Theme) {corners : String}
    (hc : isPlain corners.toList = true) (row : Row) : Sealed (row.html theme corners) := by
  cases row with
  | list color items =>
    refine Sealed.append (Sealed.append_flatMap (Sealed.of_isSealed ?_) Row.sealed_itemHtml items)
      (Sealed.of_isSealed ?_)
    · refine Row.isSealed_cell hc ?_
      simp only [isSealed, List.cons_append, List.nil_append]
      -- `toList_ofList` spells out a literal without a detour over its bytes
      repeat rewrite [String.toList_ofList]
      decide
    · simp only [Row.endOfRow, isSealed]
      repeat rewrite [String.toList_ofList]
      decide
  | header title subtitle =>
    refine Sealed.of_isSealed ?_
    simp only [Row.html, List.append_assoc]
    refine Row.isSealed_cell hc ?_
    cases subtitle <;>
    · simp only [Row.subtitleHtml, Row.endOfRow, isSealed, List.cons_append, List.nil_append,
        String.toList_append]
      repeat rewrite [String.toList_ofList]
      decide
  | heading level color text =>
    refine Sealed.of_isSealed ?_
    simp only [Row.html, List.append_assoc]
    refine Row.isSealed_cell hc ?_
    cases level <;>
    · simp only [Row.endOfRow, HeadingLevel.tag, HeadingLevel.size, isSealed, List.cons_append,
        List.nil_append, String.toList_append]
      repeat rewrite [String.toList_ofList]
      decide
  | _ =>
    refine Sealed.of_isSealed ?_
    simp only [Row.html, List.append_assoc]
    refine Row.isSealed_cell hc ?_
    simp only [Row.endOfRow, isSealed, List.cons_append, List.nil_append, String.toList_append]
    repeat rewrite [String.toList_ofList]
    decide

theorem sealed_inert (type : String) : Sealed (inert type) := by
  refine Sealed.of_isSealed ?_
  simp only [inert, isSealed]
  repeat rewrite [String.toList_ofList]
  decide

theorem Block.sealed_html (settings : Settings) (theme : Theme) (position count : Int)
    (block : Block) : Sealed (block.html settings theme position count) := by
  unfold Block.html
  split
  · exact Row.sealed_html theme (isPlain_cornerRadius _ _ _) _
  · exact sealed_inert block.kind.name

namespace Document

theorem sealed_head (theme : Theme) (title : String) : Sealed (head theme title) := by
  have hw : isPlain (toString theme.contentWidth.val).toList = true := isPlain_toString _
  have hr : isPlain (toString theme.borderRadius.val).toList = true := isPlain_toString _
  refine Sealed.of_isSealed ?_
  simp only [head, isSealed, String.toList_append, hw, hr]
  repeat rewrite [String.toList_ofList]
  generalize isWall (toString theme.contentWidth.val).toList = b
  generalize isWall (toString theme.borderRadius.val).toList = c
  revert b c
  decide

theorem sealed_tail : Sealed tail := by
  refine Sealed.wall ?_
  rewrite [String.toList_ofList]
  decide

theorem sealed_html (settings : Settings) (d : Document) (title : String) :
    Sealed (d.html settings title) := by
  have hrows : ∀ row ∈ d.rows settings, Sealed row := by
    intro row hrow
    obtain ⟨i, hi, rfl⟩ := List.mem_mapIdx.mp hrow
    exact Block.sealed_html settings d.theme _ _ _
  have hbreak : Sealed [.markup "\n"] := Sealed.wall (by decide)
  refine Sealed.append ?_ sealed_tail
  revert hrows
  generalize d.rows settings = rows
  generalize hhead : head d.theme title = before
  have hbefore : Sealed before := hhead ▸ sealed_head d.theme title
  clear hhead
  -- one row after the other joins what stands before it
  induction rows generalizing before with
  | nil => exact fun _ => by simpa using hbefore
  | cons row rows ih =>
    intro hrows
    have hrow := hbefore.append (hrows row List.mem_cons_self)
    have hrest : ∀ r ∈ rows, Sealed r := fun r hr => hrows r (List.mem_cons_of_mem row hr)
    cases rows with
    | nil => rwa [List.intercalate_singleton]
    | cons next rows =>
      rw [List.intercalate_cons_cons, ← List.append_assoc, ← List.append_assoc]
      exact ih _ (hrow.append hbreak) hrest

end Document

/-! ### The placeholders of rows -/

/-- The corners of a row are no value. -/
theorem Row.placeholders_html (theme : Theme) (corners : String) (row : Row) :
    placeholders (row.html theme corners) = placeholders (row.html theme "") := by
  cases row with
  | list => simp only [Row.html, Row.cell, placeholders_append, placeholders_markup]
  | _ => rfl

theorem placeholders_items (items : List String) :
    placeholders (items.flatMap Row.itemHtml) =
      items.flatMap fun item => occurrences item.toList := by
  induction items with
  | nil => rfl
  | cons item items ih =>
    rw [List.flatMap_cons, placeholders_append, ih, List.flatMap_cons]
    simp [Row.itemHtml]

/-- The first placeholders of a row are those of the values shown: a button, which puts in its color
twice, has no further ones for it. -/
theorem eraseDups_placeholders_row (settings : Settings) (theme : Theme) (content : Content) :
    (content.row? settings).map (fun row => (placeholders (row.html theme "")).eraseDups) =
      (content.shown? settings theme).map fun values =>
        (values.flatMap fun v => occurrences v.toList).eraseDups := by
  cases content with
  | header title subtitle =>
    by_cases h : subtitle = ""
    · simp [Content.row?, Content.shown?, nonempty?, h, Row.html, Row.cell, Row.subtitleHtml,
        Row.endOfRow]
    · simp [Content.row?, Content.shown?, nonempty?, h, Row.html, Row.cell, Row.subtitleHtml,
        Row.endOfRow]
  | image url alt width =>
    by_cases h : url = ""
    · simp [Content.row?, Content.shown?, nonempty?, h, Row.html, Row.cell, Row.endOfRow,
        Function.comp_def]
    · simp [Content.row?, Content.shown?, nonempty?, h, Row.html, Row.cell, Row.endOfRow,
        Function.comp_def]
  | button text url color =>
    have htwice := eraseDups_append_congr (eraseDups_append_self (occurrences color.toList))
      (rfl : (occurrences text.toList).eraseDups = _)
    have hall := eraseDups_append_congr (rfl : (occurrences url.toList).eraseDups = _) htwice
    simpa [Content.row?, Content.shown?, Row.html, Row.cell, Row.endOfRow] using hall
  | list items color =>
    simp [Content.row?, Content.shown?, Row.html, Row.cell, Row.endOfRow, placeholders_items]
  | _ =>
    simp [Content.row?, Content.shown?, Row.html, Row.cell, Row.endOfRow, Function.comp_def]

/-- The first placeholders of a block are those of the values shown, whatever its corners are. -/
theorem Block.eraseDups_placeholders_html (settings : Settings) (theme : Theme)
    (position count : Int) (block : Block) :
    (placeholders (block.html settings theme position count)).eraseDups =
      ((block.shown settings theme).flatMap fun v => occurrences v.toList).eraseDups := by
  have hrow := eraseDups_placeholders_row settings theme block.attributes.content
  unfold Block.html Block.shown
  cases hrow? : block.attributes.content.row? settings with
  | some row =>
    rw [hrow?, Option.map_some] at hrow
    obtain ⟨values, hvalues, heq⟩ := Option.map_eq_some_iff.mp hrow.symm
    rw [hvalues, Option.getD_some, heq]
    exact congrArg List.eraseDups (Row.placeholders_html theme _ row)
  | none =>
    rw [hrow?, Option.map_none] at hrow
    rw [Option.map_eq_none_iff.mp hrow.symm, Option.getD_none]
    simp [inert]

theorem placeholders_intercalate (m : String) (rows : List Html) :
    placeholders (List.intercalate [.markup m] rows) = rows.flatMap placeholders := by
  induction rows with
  | nil => rfl
  | cons row rows ih =>
    cases rows with
    | nil => simp
    | cons next rows =>
      rw [List.intercalate_cons_cons, placeholders_append, placeholders_append, ih,
        placeholders_markup, placeholders_nil, List.append_nil, ← List.flatMap_cons]

theorem eraseDups_flatMap_mapIdx {α β γ : Type} [BEq γ] [LawfulBEq γ] {f : Nat → α → β}
    {g : β → List γ} {k : α → List γ} (h : ∀ i a, (g (f i a)).eraseDups = (k a).eraseDups)
    (l : List α) : ((l.mapIdx f).flatMap g).eraseDups = (l.flatMap k).eraseDups := by
  induction l generalizing f with
  | nil => rfl
  | cons a l ih =>
    rw [List.mapIdx_cons, List.flatMap_cons, List.flatMap_cons]
    exact eraseDups_append_congr (h 0 a) (ih fun i b => h (i + 1) b)

namespace Document

/-- The names in a page, from all its values together. -/
theorem names_render_eq (settings : Settings) (d : Document) (title : String) :
    names (d.render settings title) =
      ((d.shown settings title).flatMap fun v => occurrences v.toList).eraseDups := by
  have hpage : occurrences (d.render settings title).toList =
      placeholders (d.html settings title) := (sealed_html settings d title).occurrences_chars
  have hrows := eraseDups_flatMap_mapIdx
    (fun i block => Block.eraseDups_placeholders_html settings d.theme i d.blocks.length block)
    d.blocks
  rw [names, hpage, html, placeholders_append, placeholders_append, placeholders_intercalate, shown,
    List.flatMap_append, List.flatMap_assoc]
  have hhead : placeholders (head d.theme title) =
      [title, d.theme.fontFamily, d.theme.backgroundColor,
        d.theme.contentBackground].flatMap fun v => occurrences v.toList := by
    simp [head]
  have htail : placeholders tail = [] := rfl
  rw [hhead, htail, List.append_nil]
  exact eraseDups_append_congr rfl hrows

/-- The names in a page are those in the values that it shows, each value taken by itself; a scan of
the page finds what scans of the values find, and no placeholder straddles two of its pieces. A block
shows the values of its row, unless a length is an integer of too many digits; then it shows its type.
No document that has been received has such a length. -/
theorem names_render (settings : Settings) (d : Document) (title : String) :
    names (d.render settings title) =
        ((d.shown settings title).flatMap names).eraseDups ∧
      scan (d.render settings title).toList =
        (values (d.html settings title)).flatMap (fun v => scan v.toList) ∧
      (∀ g h : Html, d.html settings title = g ++ h →
        ¬ Straddles g.toText.toList h.toText.toList) ∧
      (∀ block ∈ d.blocks, (block.attributes.content.shown? settings d.theme).isSome = true ↔
        block.attributes.content.Writable) ∧
      (d.Received → ∀ block ∈ d.blocks,
        block.attributes.content.shown? settings d.theme =
          some (block.shown settings d.theme)) := by
  have hpage : occurrences (d.render settings title).toList =
      placeholders (d.html settings title) := (sealed_html settings d title).occurrences_chars
  refine ⟨?_, ?_, fun g h hgh => ?_, fun _ _ => Content.isSome_shown?_iff settings d.theme,
    fun hd block hblock => ?_⟩
  · have hnames : ((d.shown settings title).flatMap names).eraseDups =
        ((d.shown settings title).flatMap fun v => occurrences v.toList).eraseDups :=
      eraseDups_flatMap_congr fun v _ => eraseDups_eraseDups _
    rw [hnames, names_render_eq]
  · simp only [scan_eq_occurrences]
    exact hpage
  · refine not_straddles_of_occurrences_eq ?_
    rw [← hgh]
    exact hpage
  · have hwritable := (hd.writable block hblock).content
    obtain ⟨values, hvalues⟩ :=
      Option.isSome_iff_exists.mp ((Content.isSome_shown?_iff settings d.theme).mpr hwritable)
    rw [Block.shown, hvalues, Option.getD_some]

end Document
end MailTemplate
