import MailTemplate.Block.Untyped
import MailTemplate.Failure
import MailTemplate.Html.Row
import MailTemplate.PlainText
import MailTemplate.Warning

/-!
# Loose blocks

The attributes of a loose block have not been checked: they are any values, and its type may be no
kind at all. It is shown as far as that is possible.

* `LooseBlock` and `LooseBlock.read`: such a block, from a value;
* `LooseBlock.row?`: what it shows, each value in its displayed form, if it has one;
* `LooseBlock.html` and `inertComment`: its row, or a comment where there is none;
* `LooseBlock.plainText`: its text, which may be a value of another type.
-/

namespace MailTemplate

/-- A block whose attributes have not been checked. -/
inductive LooseBlock
  /-- A block of a kind, of which nothing has been checked. -/
  | ofKind (id : Json) (kind : Kind) (content : Json.Object)
  /-- A block whose type is no kind; it has an id and a type. -/
  | untyped (block : UntypedBlock)

namespace LooseBlock

/-- The names that no member of the content can have. -/
def reservedNames : List String := ["cls"]

/-- The content of a block of a kind: values given by name, or nothing at all. -/
def contentOf (o : Json.Object) : Except Failure Json.Object :=
  match o.get? "content" with
  | none => .ok []
  | some content => content.namedValues reservedNames

/-- The block of a kind with the members of an object. -/
def ofMembers (kind : Kind) (o : Json.Object) : Except Failure LooseBlock :=
  (contentOf o).map (ofKind ((o.get? "id").getD (.str "")) kind)

/-- The block with the id and the type of an object, whose content is passed over. -/
def untypedOf (type : Json) (o : Json.Object) (ids : IdSource) :
    Except Failure LooseBlock × IdSource :=
  let (block, rest) :=
    UntypedBlock.ofObject [("id", (o.get? "id").getD (.str "")), ("type", type)] ids
  ((block.orInvalid UntypedBlock.model).map untyped, rest)

/-- The loose block that a value describes: an object with a type. Only a block whose type is no
kind has its id and its type checked. -/
def read (v : Json) (ids : IdSource) : Except Failure LooseBlock × IdSource :=
  match v with
  | .obj o =>
      match Json.Object.get? o "type" with
      | none => (.error (.lacking "type"), ids)
      | some type =>
          match Kind.resolve type with
          | .ok kind => (ofMembers kind o, ids)
          | .error (.unknownKind _) => untypedOf type o ids
          | .error failure => (.error failure, ids)
  | _ => (.error .misnamed, ids)

/-- The type of a block. -/
def type : LooseBlock → String
  | ofKind _ kind _ => kind.name
  | untyped block => block.type

/-- The declared fields of a kind, under their names on the wire: each has the value of its member,
or else its default. -/
def declared (settings : Settings) (kind : Kind) (content : Json.Object) : Json.Object :=
  (Record.toObject kind.fields (kind.defaults settings)).zipWith
    (fun (name, default) field =>
      (name, ((content.find? field.name).map (·.2)).getD default)) kind.fields

/-- The value of a declared field, by its name on the wire. -/
def value (fields : Json.Object) (name : String) : Json := (fields.get? name).getD .null

/-- The displayed form of a declared field. -/
def shown? (fields : Json.Object) (name : String) : Option String := (value fields name).display?

/-- The displayed form of a declared field, or nothing in its place if its value is empty. -/
def filled? (fields : Json.Object) (name : String) : Option (Option String) :=
  if (value fields name).isTruthy then (shown? fields name).map some else some none

/-- What a value is gone through for: the items of an array, the characters of a text, the names of
an object. -/
def items? : Json → Option (List Json)
  | .arr items => some items
  | .str s => some (s.toList.map fun c => .str (String.singleton c))
  | .obj members => some (members.map fun m => .str m.1)
  | _ => none

/-- The displayed forms of items. -/
def texts? (items : List Json) : Option (List String) := items.mapM Json.display?

/-- The level that a value names. Only scalars can be looked up. -/
def level? (v : Json) : Option HeadingLevel :=
  if v.isScalar then some (.ofName (v.text?.getD "")) else none

/-- What a block of a kind with the given fields shows, if it can be shown. -/
def rowOfFields? (settings : Settings) (fields : Json.Object) : Kind → Option Row
  | .header => do some (.header (← shown? fields "title") (← filled? fields "subtitle"))
  | .heading => do
      let level ← level? (value fields "level")
      some (.heading level (← shown? fields "color") (← shown? fields "text"))
  | .paragraph => do
      let fontSize ← (value fields "fontSize").css?
      some (.paragraph (← shown? fields "color") fontSize (← shown? fields "text"))
  | .image => do
      let source := (← filled? fields "url").getD settings.placeholderImage
      some (.image source (← shown? fields "alt") (← (value fields "width").css?))
  | .button => do
      some (.button (← shown? fields "url") (← shown? fields "color") (← shown? fields "text"))
  | .divider => do
      some (.divider (← (value fields "margin").css?) (← shown? fields "color"))
  | .spacer => (value fields "height").css?.map .spacer
  | .list => do
      let items ← items? (value fields "items")
      some (.list (← shown? fields "color") (← texts? items))
  | .footer => (shown? fields "text").map .footer

/-- What a block shows, if it can be shown. -/
def row? (settings : Settings) : LooseBlock → Option Row
  | ofKind _ kind content => rowOfFields? settings (declared settings kind content) kind
  | untyped _ => none

/-- The comment in the place of a block that is not shown. -/
def inertComment (block : LooseBlock) : String := (Html.inert block.type).toText

/-- The warning of a block that is not shown. -/
def unshown : LooseBlock → Warning
  | ofKind id kind _ => .unshownBlock id kind
  | untyped block => .unknownHtml block.type

/-- The text of the row of a block, or a comment and a warning where it has none. -/
def html (settings : Settings) (theme : Theme) (position count : Int) (block : LooseBlock) :
    String × List Warning :=
  match block.row? settings with
  | some row => ((row.html theme (cornerRadius position count theme.borderRadius.val)).toText, [])
  | none => (block.inertComment, [block.unshown])

/-- A text that has been put together from displayed forms. -/
def worded : Option String → Except Failure Json
  | some s => .ok (.str s)
  | none => .error .notText

/-- The text of a block of a kind with the given fields. -/
def textOfFields (fields : Json.Object) : Kind → Except Failure Json
  | .header =>
      if (value fields "subtitle").isTruthy then
        worded do some ((← shown? fields "title") ++ "\n" ++ (← shown? fields "subtitle"))
      else .ok (value fields "title")
  | .heading => .ok (value fields "text")
  | .paragraph => .ok (value fields "text")
  | .image =>
      if (value fields "alt").isTruthy then
        worded ((shown? fields "alt").map fun alt => "[" ++ alt ++ "]")
      else .ok .null
  | .button => worded do some ((← shown? fields "text") ++ ": " ++ (← shown? fields "url"))
  | .divider => .ok (.str PlainText.dividerLine)
  | .spacer => .ok .null
  | .list =>
      match items? (value fields "items") with
      | some items => worded ((texts? items).map PlainText.listText)
      | none => .error .notIterable
  | .footer => .ok (value fields "text")

/-- The text of a block: a single text is the value that it was given, whatever its type. -/
def plainText (settings : Settings) : LooseBlock → Except Failure Json × List Warning
  | ofKind _ kind content => (textOfFields (declared settings kind content) kind, [])
  | untyped block => (.ok .null, [.unknownText block.type])

end LooseBlock
end MailTemplate
