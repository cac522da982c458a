import MailTemplate.Json.Typed

/-!
# Kinds of blocks

* `Kind` and `Kind.all`: the nine kinds, in the order of the palette;
* `Kind.name`, `label` and `title`: the name in documents, in the palette and in models;
* `Kind.ofName?`: the kind of a name;
* `Kind.asTagged`: an object and the kind that it names as its type.
-/

namespace MailTemplate

/-- A kind of block. -/
inductive Kind
  | header
  | heading
  | paragraph
  | image
  | button
  | divider
  | spacer
  | list
  | footer
  deriving DecidableEq

namespace Kind

/-- The kinds, in the order of the palette. -/
def all : List Kind :=
  [header, heading, paragraph, image, button, divider, spacer, list, footer]

theorem mem_all (kind : Kind) : kind ∈ all := by cases kind <;> decide

/-- The name in documents. -/
def name : Kind → String
  | header => "header"
  | heading => "heading"
  | paragraph => "paragraph"
  | image => "image"
  | button => "button"
  | divider => "divider"
  | spacer => "spacer"
  | list => "list"
  | footer => "footer"

/-- The name in models. -/
def title : Kind → String
  | header => "Header"
  | heading => "Heading"
  | paragraph => "Paragraph"
  | image => "Image"
  | button => "Button"
  | divider => "Divider"
  | spacer => "Spacer"
  | list => "List"
  | footer => "Footer"

/-- The name in the palette. -/
def label : Kind → String
  | paragraph => "Text"
  | kind => kind.title

/-- The model of a block of a kind. -/
def blockModel (kind : Kind) : String := kind.title ++ "Block"

/-- The model of the attributes of a kind. -/
def attributesModel (kind : Kind) : String := kind.title ++ "Attributes"

/-- The names of the kinds. -/
def names : List String := all.map name

theorem name_injective {a b : Kind} (h : a.name = b.name) : a = b := by
  revert h
  cases a <;> cases b <;> decide

/-- The kind of a name. -/
def ofName? (s : String) : Option Kind := all.find? fun kind => kind.name = s

@[simp] theorem ofName?_name (kind : Kind) : ofName? kind.name = some kind := by
  cases kind <;> decide

/-- An object and the kind that it names as its type. -/
def asTagged (v : Json) : Checked (Kind × Json.Object) := Json.asTagged "type" name all v

end Kind
end MailTemplate
