import MailTemplate.PlainText
import MailTemplate.Proofs.Text.Trimmed

/-!
# What a plain text does not show

A plain text depends on the texts of the blocks alone.

* `Content.Silent` and `Content.SameText`: contents without a text, and contents with the same one;
* `Block.Reduced`: blocks left out and replaced, at any number of places;
* `plainText_of_reduced`: such documents have the same plain text;
* `PlainText.body` and `infix_ofParagraphs`: a plain text without its line break, and what is in it;
* `plainText_ignores`: this, and the ends of a plain text.
-/

namespace MailTemplate

/-- Contents without a text: spacers, and images without a description. -/
inductive Content.Silent : Content → Prop
  | spacer (height : Pixels) : Silent (.spacer height)
  | image (url : String) (width : Pixels) : Silent (.image url "" width)

/-- Contents of one kind that differ at most in what is not shown in a text. -/
inductive Content.SameText : Content → Content → Prop
  | header (title subtitle : String) : SameText (.header title subtitle) (.header title subtitle)
  | heading (text level level' color color' : String) :
      SameText (.heading text level color) (.heading text level' color')
  | paragraph (text color color' : String) (fontSize fontSize' : Pixels) :
      SameText (.paragraph text color fontSize) (.paragraph text color' fontSize')
  | image (url url' alt : String) (width width' : Pixels) :
      SameText (.image url alt width) (.image url' alt width')
  | button (text url color color' : String) :
      SameText (.button text url color) (.button text url color')
  | divider (color color' : String) (margin margin' : Pixels) :
      SameText (.divider color margin) (.divider color' margin')
  | spacer (height height' : Pixels) : SameText (.spacer height) (.spacer height')
  | list (items : List String) (color color' : String) :
      SameText (.list items color) (.list items color')
  | footer (text : String) : SameText (.footer text) (.footer text)

/-- The second list of blocks comes from the first one: blocks without a text are left out, and the
others, under any ids and with any members beside their fields, keep what is shown in a text. -/
inductive Block.Reduced : List Block → List Block → Prop
  | nil : Reduced [] []
  | drop {block : Block} {blocks blocks' : List Block} (h : block.attributes.content.Silent)
      (hrest : Reduced blocks blocks') : Reduced (block :: blocks) blocks'
  | keep {block block' : Block} {blocks blocks' : List Block}
      (h : block.attributes.content.SameText block'.attributes.content)
      (hrest : Reduced blocks blocks') : Reduced (block :: blocks) (block' :: blocks')

namespace Content

variable {content content' : Content}

theorem Silent.plainText? (h : content.Silent) : content.plainText? = none := by
  cases h with
  | spacer height => rfl
  | image url width => rfl

theorem SameText.plainText? (h : content.SameText content') :
    content'.plainText? = content.plainText? := by
  cases h <;> rfl

end Content

/-- The texts of the blocks are the same, in the same order. -/
theorem Block.Reduced.filterMap_plainText? {blocks blocks' : List Block}
    (h : Reduced blocks blocks') :
    blocks'.filterMap (·.attributes.content.plainText?) =
      blocks.filterMap (·.attributes.content.plainText?) := by
  induction h with
  | nil => rfl
  | drop h _ ih => rw [List.filterMap_cons, h.plainText?, ih]
  | keep h _ ih => rw [List.filterMap_cons, List.filterMap_cons, h.plainText?, ih]

namespace PlainText

variable {paragraphs : List String}

/-- Paragraphs that are put together, without gaps at the ends of the whole. -/
def body (paragraphs : List String) : String :=
  Text.trim Text.isGap ("\n\n".intercalate paragraphs)

theorem trimmed_body (paragraphs : List String) :
    Text.Trimmed Text.isGap (body paragraphs).toList := by
  rw [body, Text.toList_trim]
  exact Text.trimmed_trimChars _ _

theorem ofParagraphs_of_empty (h : body paragraphs = "") : ofParagraphs paragraphs = "" := if_pos h

theorem ofParagraphs_of_ne (h : body paragraphs ≠ "") :
    ofParagraphs paragraphs = body paragraphs ++ "\n" := if_neg h

theorem infix_intercalate (separator : List Char) {parts : List (List Char)} {part : List Char}
    (h : part ∈ parts) : part <:+: separator.intercalate parts := by
  induction parts with
  | nil => contradiction
  | cons a parts ih =>
    cases parts with
    | nil =>
      obtain rfl := List.mem_singleton.mp h
      simp
    | cons b parts =>
      rw [List.intercalate_cons_cons, List.append_assoc]
      rcases List.mem_cons.mp h with rfl | h
      · exact (List.prefix_append _ _).isInfix
      · exact (ih h).trans
          ((List.suffix_append _ _).isInfix.trans (List.suffix_append _ _).isInfix)

/-- Only gaps at the two ends of the whole are left out. -/
theorem infix_ofParagraphs {paragraph : String} (h : paragraph ∈ paragraphs) :
    (Text.trim Text.isGap paragraph).toList <:+: (ofParagraphs paragraphs).toList := by
  have hwhole : paragraph.toList <:+: ("\n\n".intercalate paragraphs).toList := by
    rw [String.toList_intercalate]
    exact infix_intercalate _ (List.mem_map_of_mem h)
  have hbody : (Text.trim Text.isGap paragraph).toList <:+: (body paragraphs).toList := by
    rw [body, Text.toList_trim, Text.toList_trim]
    exact (Text.trimmed_trimChars _ _).infix_trimChars ((Text.trimChars_infix _ _).trans hwhole)
  by_cases hempty : body paragraphs = ""
  · rwa [ofParagraphs_of_empty hempty, ← hempty]
  · rw [ofParagraphs_of_ne hempty, String.toList_append]
    exact hbody.trans (List.prefix_append _ _).isInfix

end PlainText

namespace Document

variable {d e : Document}

theorem plainText_of_reduced (h : Block.Reduced d.blocks e.blocks) : e.plainText = d.plainText := by
  rw [plainText, plainText, h.filterMap_plainText?]

/-- The plain text of a document stays the same whatever becomes of its theme, of ids, of members
beside the declared fields and of fields that are not shown, and without any of the blocks that have
no text. It is empty, or a text without gaps at its ends and one line break. The texts of the other
blocks are in it, but for gaps at their ends. -/
theorem plainText_ignores (d : Document) :
    (∀ e : Document, Block.Reduced d.blocks e.blocks → e.plainText = d.plainText) ∧
    (d.plainText = "" ∨ ∃ text : String, text ≠ "" ∧ Text.Trimmed Text.isGap text.toList ∧
      d.plainText = text ++ "\n") ∧
    ∀ block ∈ d.blocks, ∀ text, block.attributes.content.plainText? = some text →
      (Text.trim Text.isGap text).toList <:+: d.plainText.toList := by
  refine ⟨fun e => plainText_of_reduced, ?_, fun block hblock text htext => ?_⟩
  · let paragraphs := d.blocks.filterMap (·.attributes.content.plainText?)
    by_cases hempty : PlainText.body paragraphs = ""
    · exact .inl (PlainText.ofParagraphs_of_empty hempty)
    · exact .inr ⟨_, hempty, PlainText.trimmed_body _, PlainText.ofParagraphs_of_ne hempty⟩
  · exact PlainText.infix_ofParagraphs (List.mem_filterMap.mpr ⟨block, hblock, htext⟩)

/-- A spacer and an image at the front and one of two spacers in the middle are left out. -/
theorem plainText_ignores_spacers :
    let block (id : String) (content : Content) : Block := ⟨id, content, []⟩
    let d : Document :=
      ⟨[block "a" (.spacer (.int 32)), block "b" (.image "u" "" (.text "100%")),
        block "c" (.heading " News" "h2" "#000"), block "d" (.spacer (.int 8)),
        block "e" (.spacer (.int 8)), block "f" (.button "Go" "#" "#111")], .standard⟩
    let e : Document :=
      ⟨[block "x" (.heading " News" "h1" "#fff"), ⟨"y", .spacer (.int 0), [("note", .null)]⟩,
        block "z" (.button "Go" "#" "#222")], { Theme.standard with primaryColor := "#333" }⟩
    Block.Reduced d.blocks e.blocks ∧ e.plainText = d.plainText ∧
      d.plainText = "News\n\nGo: #\n" := by
  intro block d e
  have hreduced : Block.Reduced d.blocks e.blocks :=
    .drop (.spacer _) <| .drop (.image _ _) <| .keep (.heading ..) <| .drop (.spacer _) <|
      .keep (.spacer ..) <| .keep (.button ..) .nil
  exact ⟨hreduced, (plainText_ignores d).1 e hreduced, by decide⟩

end Document
end MailTemplate
