import MailTemplate.Html.Page
import MailTemplate.Proofs.Document.Received

/-!
# Rows on their own

A page is a shell around its rows, and a row depends on the other blocks only through the declaration
of its corners. The comment in the place of a row does not depend on them at all.

* `Html.toText_append` and `toText_intercalate`: the texts of fragments that are put together;
* `Row.exists_toText_eq`: where the declaration of the corners stands in a row;
* `nodup_corners` and `cornersAt_cornerRadius`: the declarations of corners, and which row has which;
* `Document.fragments` and `render_eq`: the rows of a page as texts, and the shell around them;
* `exists_fragment_eq` and `fragment_of_not_writable`: a block with a row, and one with a comment;
* `fragments_of_attributes_eq`: blocks with the same attributes;
* `Document.render_local`: what an edit of the blocks does to the page.
-/

namespace MailTemplate

/-! ### Texts of fragments -/

namespace Html

@[simp] theorem toText_nil : toText [] = "" := rfl

@[simp] theorem toText_cons (p : Piece) (html : Html) : toText (p :: html) = p.text ++ html.toText :=
  String.join_cons

@[simp] theorem toText_append (g h : Html) : toText (g ++ h) = g.toText ++ h.toText := by
  rw [toText, List.map_append, String.join_append, toText, toText]

theorem append_append_cons (f g h rest : Html) (p : Piece) :
    f ++ g ++ h ++ p :: rest = f ++ (g ++ h ++ [p]) ++ rest := by
  simp

theorem toText_intercalate (m : String) (rows : List Html) :
    toText (List.intercalate [.markup m] rows) = m.intercalate (rows.map toText) := by
  induction rows with
  | nil => rfl
  | cons row rows ih =>
    cases rows with
    | nil => simp
    | cons next rows =>
      rw [List.intercalate_cons_cons, List.map_cons, List.map_cons, String.intercalate_cons_cons,
        toText_append, toText_append, ih, List.map_cons]
      simp [Piece.text]

end Html

/-! ### Rows and their corners -/

/-- A row is a cell of some style and what stands in it. The declaration of the corners ends the
style. -/
theorem Row.exists_html_eq (theme : Theme) (row : Row) : ∃ style inner : Html,
    ∀ corners, row.html theme corners = cell style corners ++ inner ++ endOfRow := by
  cases row with
  | header => exact ⟨_, _, fun _ => Html.append_append_cons ..⟩
  | spacer => exact ⟨_, [], fun _ => by rw [List.append_nil]; rfl⟩
  | list => exact ⟨_, _, fun _ => Html.append_append_cons ..⟩
  | _ => exact ⟨_, _, fun _ => rfl⟩

theorem Row.exists_toText_eq (theme : Theme) (row : Row) : ∃ style inner : String,
    ∀ corners, (row.html theme corners).toText =
      "<tr><td style=\"" ++ style ++ corners ++ "\">" ++ inner ++ "</td></tr>" := by
  obtain ⟨style, inner, h⟩ := row.exists_html_eq theme
  refine ⟨style.toText, inner.toText, fun corners => ?_⟩
  rw [h]
  simp [cell, endOfRow, Html.Piece.text, String.append_assoc]

/-- The declaration of round corners above, of some length. -/
def roundAbove (r : String) : String := " border-radius: " ++ r ++ " " ++ r ++ " 0 0;"

/-- The declaration of round corners below. -/
def roundBelow (r : String) : String := " border-radius: 0 0 " ++ r ++ " " ++ r ++ ";"

/-- The declaration of round corners on all sides. -/
def roundAround (r : String) : String := " border-radius: " ++ r ++ ";"

theorem cornerRadius_eq (radius : Int) {i n : Nat} (h : i < n) :
    let r := toString radius ++ "px"
    cornerRadius i n radius =
      if i = 0 then if i = n - 1 then roundAround r else roundAbove r
      else if i = n - 1 then roundBelow r else "" := by
  have hfirst : (i : Int) = 0 ↔ i = 0 := by omega
  have hlast : (i : Int) = n - 1 ↔ i = n - 1 := by omega
  simp only [cornerRadius, hfirst, hlast]
  rfl

theorem length_rounds (r : String) :
    (roundAbove r).length = 2 * r.length + 22 ∧ (roundBelow r).length = 2 * r.length + 22 ∧
      (roundAround r).length = r.length + 17 := by
  have hliterals : " border-radius: ".length = 16 ∧ " border-radius: 0 0 ".length = 20 ∧
      " ".length = 1 ∧ " 0 0;".length = 5 ∧ ";".length = 1 := by decide
  unfold roundAbove roundBelow roundAround
  simp only [String.length_append]
  omega

/-- The declarations of two sides are equally long, but only one of them ends with a unit. -/
theorem roundAbove_ne_roundBelow (s : String) :
    roundAbove (s ++ "px") ≠ roundBelow (s ++ "px") := by
  unfold roundAbove roundBelow
  intro heq
  have hend := congrArg (fun s => s.toList.reverse.take 3) heq
  simp at hend

/-- No two declarations are alike. -/
theorem nodup_corners (s : String) :
    [roundAbove (s ++ "px"), roundBelow (s ++ "px"), roundAround (s ++ "px"), ""].Nodup := by
  have hsides := roundAbove_ne_roundBelow s
  generalize s ++ "px" = r at hsides ⊢
  obtain ⟨habove, hbelow, haround⟩ := length_rounds r
  have hne {s t : String} (h : s.length ≠ t.length) : s ≠ t := fun heq => h (congrArg _ heq)
  have hempty {s : String} (h : s.length ≠ 0) : s ≠ "" := hne (by rwa [String.length_empty])
  have hwhole : roundAbove r ≠ roundAround r ∧ roundBelow r ≠ roundAround r :=
    ⟨hne (by omega), hne (by omega)⟩
  have hnone : roundAbove r ≠ "" ∧ roundBelow r ≠ "" ∧ roundAround r ≠ "" :=
    ⟨hempty (by omega), hempty (by omega), hempty (by omega)⟩
  simp [hsides, hwhole, hnone]

/-- Which declaration the row at a position has: round corners above exactly for the first of several
rows, below for the last of several, on all sides for a single row, and none for any other row. -/
structure CornersAt (radius : Int) (i n : Nat) (corners : String) : Prop where
  above : corners = roundAbove (toString radius ++ "px") ↔ i = 0 ∧ 0 < n - 1
  below : corners = roundBelow (toString radius ++ "px") ↔ i = n - 1 ∧ 0 < n - 1
  around : corners = roundAround (toString radius ++ "px") ↔ n = 1
  absent : corners = "" ↔ 0 < i ∧ i < n - 1

theorem cornersAt_cornerRadius (radius : Int) {i n : Nat} (h : i < n) :
    CornersAt radius i n (cornerRadius i n radius) := by
  have hnodup := nodup_corners (toString radius)
  simp only [List.nodup_cons, List.mem_cons, List.not_mem_nil, or_false, not_or, ← ne_eq] at hnodup
  obtain ⟨⟨hsides, habove, habove'⟩, ⟨hbelow, hbelow'⟩, haround, -⟩ := hnodup
  rw [cornerRadius_eq radius h]
  by_cases h0 : i = 0
  · by_cases h1 : i = n - 1
    · rw [if_pos h0, if_pos h1]
      exact ⟨iff_of_false habove.symm (by omega), iff_of_false hbelow.symm (by omega),
        iff_of_true rfl (by omega), iff_of_false haround (by omega)⟩
    · rw [if_pos h0, if_neg h1]
      exact ⟨iff_of_true rfl (by omega), iff_of_false hsides (by omega),
        iff_of_false habove (by omega), iff_of_false habove' (by omega)⟩
  · by_cases h1 : i = n - 1
    · rw [if_neg h0, if_pos h1]
      exact ⟨iff_of_false hsides.symm (by omega), iff_of_true rfl (by omega),
        iff_of_false hbelow (by omega), iff_of_false hbelow' (by omega)⟩
    · rw [if_neg h0, if_neg h1]
      exact ⟨iff_of_false habove'.symm (by omega), iff_of_false hbelow'.symm (by omega),
        iff_of_false haround.symm (by omega), iff_of_true rfl (by omega)⟩

/-- The declaration is chosen by two questions. -/
theorem cornerRadius_congr (radius : Int) {i j m n : Nat} (hfirst : j = 0 ↔ i = 0)
    (hlast : j + 1 = n ↔ i + 1 = m) : cornerRadius j n radius = cornerRadius i m radius := by
  have hfirst' : ((j : Int) = 0) ↔ ((i : Int) = 0) := by omega
  have hlast' : ((j : Int) = n - 1) ↔ ((i : Int) = m - 1) := by omega
  simp only [cornerRadius, hfirst', hlast']

/-! ### Documents -/

namespace Document

variable {settings : Settings} {d e : Document} {source : IdSource}

/-- The rows of a document as texts. -/
def fragments (settings : Settings) (d : Document) : List String :=
  (d.rows settings).map Html.toText

theorem render_eq (settings : Settings) (d : Document) (title : String) :
    d.render settings title =
      (head d.theme title).toText ++ "\n".intercalate (d.fragments settings) ++ tail.toText := by
  rw [render, html, Html.toText_append, Html.toText_append, Html.toText_intercalate]
  rfl

theorem getElem?_fragments (settings : Settings) (d : Document) (i : Nat) :
    (d.fragments settings)[i]? = d.blocks[i]?.map fun block =>
      (block.html settings d.theme i d.blocks.length).toText := by
  rw [fragments, List.getElem?_map, rows, List.getElem?_mapIdx, Option.map_map]
  rfl

/-- A block with a row comes with a text before and a text after the declaration of its corners,
wherever it stands in a document of some theme. -/
theorem exists_fragment_eq (settings : Settings) (theme : Theme) {attributes : Attributes}
    (h : attributes.content.Writable) :
    ∃ before after : String, ∀ (d : Document) (i : Nat) (block : Block), d.theme = theme →
      d.blocks[i]? = some block → block.attributes = attributes →
      (d.fragments settings)[i]? =
        some (before ++ cornerRadius i d.blocks.length theme.borderRadius.val ++ after) := by
  obtain ⟨row, hrow⟩ := Option.isSome_iff_exists.mp ((Content.isSome_row?_iff settings).mpr h)
  obtain ⟨style, inner, htext⟩ := row.exists_toText_eq theme
  refine ⟨"<tr><td style=\"" ++ style, "\">" ++ inner ++ "</td></tr>", ?_⟩
  rintro d i block rfl hblock rfl
  rw [getElem?_fragments, hblock, Option.map_some, Block.html, hrow]
  simp only [htext, String.append_assoc]

/-- A block without a row is the same comment wherever it stands. -/
theorem fragment_of_not_writable (settings : Settings) {i : Nat} {block : Block}
    (hblock : d.blocks[i]? = some block) (h : ¬ block.attributes.content.Writable) :
    (d.fragments settings)[i]? = some (Html.inert block.kind.name).toText := by
  have hrow : block.attributes.content.row? settings = none := by
    rwa [← Content.isSome_row?_iff settings, Option.not_isSome_iff_eq_none] at h
  rw [getElem?_fragments, hblock, Option.map_some, Block.html, hrow]

/-- Two documents of one theme show blocks with the same attributes in the same way, but for the
declaration of the corners. -/
theorem fragments_of_attributes_eq (settings : Settings) (htheme : e.theme = d.theme) {i j : Nat}
    {b c : Block} (hb : d.blocks[i]? = some b) (hc : e.blocks[j]? = some c)
    (hattributes : c.attributes = b.attributes) :
    let radius := d.theme.borderRadius.val
    (b.attributes.content.Writable → ∃ before after,
      (d.fragments settings)[i]? =
        some (before ++ cornerRadius i d.blocks.length radius ++ after) ∧
      (e.fragments settings)[j]? =
        some (before ++ cornerRadius j e.blocks.length radius ++ after)) ∧
    (¬ b.attributes.content.Writable →
      (d.fragments settings)[i]? = some (Html.inert b.kind.name).toText ∧
      (e.fragments settings)[j]? = some (Html.inert b.kind.name).toText) ∧
    ((j = 0 ↔ i = 0) → (j + 1 = e.blocks.length ↔ i + 1 = d.blocks.length) →
      (e.fragments settings)[j]? = (d.fragments settings)[i]?) := by
  intro radius
  by_cases hwritable : b.attributes.content.Writable
  · obtain ⟨before, after, hfragment⟩ := exists_fragment_eq settings d.theme hwritable
    have hbefore := hfragment d i b rfl hb rfl
    have hafter := hfragment e j c htheme hc hattributes
    refine ⟨fun _ => ⟨before, after, hbefore, hafter⟩, fun hlost => absurd hwritable hlost,
      fun hfirst hlast => ?_⟩
    rw [hbefore, hafter, cornerRadius_congr _ hfirst hlast]
  · have hbefore := fragment_of_not_writable settings hb hwritable
    have hkind : c.kind = b.kind := congrArg (·.content.kind) hattributes
    rw [← hattributes] at hwritable
    have hafter := fragment_of_not_writable settings hc hwritable
    rw [hkind] at hafter
    rw [hattributes] at hwritable
    exact ⟨fun hshown => absurd hshown hwritable, fun _ => ⟨hbefore, hafter⟩,
      fun _ _ => hafter.trans hbefore.symm⟩

/-- Only a change of the theme changes the theme. -/
theorem theme_apply {edit : Edit} (hedit : ∀ changes, edit ≠ .restyle changes)
    (h : (edit.apply settings d source).1 = .ok (some e)) : e.theme = d.theme := by
  cases edit with
  | insert kind =>
    obtain ⟨k, -, rfl, -⟩ := insert_eq_ok (Prod.ext (map_some_eq_ok.mp h) rfl)
    rfl
  | update id changes =>
    obtain ⟨_, _, _, _, _, -, -, -, -, -, rfl⟩ := update_eq_ok (map_some_eq_ok.mp h)
    rfl
  | move index offset =>
    obtain ⟨-, _, _, -, -, rfl⟩ := move_eq_some.mp (Except.ok.inj h)
    rfl
  | duplicate index =>
    obtain ⟨_, _, -, -, rfl, -⟩ := duplicate_eq_ok (Prod.ext (map_some_eq_ok.mp h) rfl)
    rfl
  | remove id =>
    obtain ⟨_, _, -, -, rfl⟩ := remove_eq_some (Except.ok.inj h)
    rfl
  | restyle changes => exact absurd rfl (hedit changes)

/-- Before and after an edit of the blocks a page is one shell around the rows of its blocks, each on a
line of its own. The rows of a block whose attributes have not changed differ in the declaration of the
corners at most, and the comments in the place of rows do not differ. They are the same text if the
block is the first one after the edit exactly if it was before, and likewise the last one. -/
theorem render_local {edit : Edit} {result : Option Document}
    (hedit : ∀ changes, edit ≠ .restyle changes)
    (h : (edit.apply settings d source).1 = .ok result) (title : String) :
    let e := result.getD d
    let radius := d.theme.borderRadius.val
    (∀ x, x = d ∨ x = e →
      x.render settings title =
        (head d.theme title).toText ++ "\n".intercalate (x.fragments settings) ++ tail.toText ∧
      x.fragments settings = x.blocks.mapIdx fun i block =>
        (block.html settings d.theme i x.blocks.length).toText) ∧
    (∀ (i j : Nat) (b c : Block), d.blocks[i]? = some b → e.blocks[j]? = some c →
      c.attributes = b.attributes →
      (b.attributes.content.Writable → ∃ before after,
        (d.fragments settings)[i]? =
          some (before ++ cornerRadius i d.blocks.length radius ++ after) ∧
        (e.fragments settings)[j]? =
          some (before ++ cornerRadius j e.blocks.length radius ++ after)) ∧
      (¬ b.attributes.content.Writable →
        (d.fragments settings)[i]? = some (Html.inert b.kind.name).toText ∧
        (e.fragments settings)[j]? = some (Html.inert b.kind.name).toText) ∧
      ((j = 0 ↔ i = 0) → (j + 1 = e.blocks.length ↔ i + 1 = d.blocks.length) →
        (e.fragments settings)[j]? = (d.fragments settings)[i]?)) ∧
    ∀ i n : Nat, i < n → CornersAt radius i n (cornerRadius i n radius) := by
  intro e radius
  have htheme : e.theme = d.theme := by
    cases result with
    | none => rfl
    | some e => exact theme_apply hedit h
  refine ⟨?_, ?_, fun i n hi => cornersAt_cornerRadius radius hi⟩
  · intro x hx
    have hxtheme : x.theme = d.theme := by
      rcases hx with rfl | rfl
      · rfl
      · exact htheme
    rw [← hxtheme]
    refine ⟨render_eq settings x title, List.ext_getElem? fun i => ?_⟩
    rw [getElem?_fragments, List.getElem?_mapIdx]
  · exact fun i j b c hb hc => fragments_of_attributes_eq settings htheme hb hc

/-- A copy after the last of two spacers: the first one keeps its text, and the second one is not round
any more. -/
theorem render_local_copy :
    let settings : Settings := ⟨2024, "", "", ""⟩
    let spacer (id : String) : Block := ⟨id, .standard settings .spacer⟩
    let d : Document := ⟨[spacer "a", spacer "b"], .standard⟩
    let e : Document := ⟨[spacer "a", spacer "b", spacer "spacer-x"], .standard⟩
    ((Edit.duplicate 1).apply settings d ⟨["x"], 0⟩).1 = .ok (some e) ∧
      (e.fragments settings)[0]? = (d.fragments settings)[0]? ∧
      ∃ before after,
        (d.fragments settings)[1]? =
          some (before ++ " border-radius: 0 0 16px 16px;" ++ after) ∧
        (e.fragments settings)[1]? = some (before ++ "" ++ after) := by
  intro settings spacer d e
  have hedit : ((Edit.duplicate 1).apply settings d ⟨["x"], 0⟩).1 = .ok (some e) := by rfl
  have hkind : ∀ changes, Edit.duplicate 1 ≠ .restyle changes := by
    intro changes hsame
    contradiction
  have hlocal := (render_local hkind hedit "").2.1
  refine ⟨hedit, ?_, ?_⟩
  · exact (hlocal 0 0 _ _ rfl rfl rfl).2.2 Iff.rfl (by decide)
  · have hcorners : cornerRadius (1 : Nat) (2 : Nat) 16 = " border-radius: 0 0 16px 16px;" := by
      decide
    have hnone : cornerRadius (1 : Nat) (3 : Nat) 16 = "" := by decide
    have hwritable := (Attributes.writable_standard settings .spacer).content
    have hsecond := (hlocal 1 1 _ _ rfl rfl rfl).1 hwritable
    rw [← hcorners, ← hnone]
    exact hsecond

end Document
end MailTemplate
