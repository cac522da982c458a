import MailTemplate.Json.Typed

/-!
# Template metadata

* `TemplateType` and `TemplateCategory`: what a template is for;
* `Metadata`: what is known of a template beside its document;
* `Metadata.read` and `toObject`: metadata from and as JSON. The name and the subject lose the
  blanks at their ends, and something must be left of them.
-/

namespace MailTemplate

/-- What a template is sent for. -/
inductive TemplateType
  | verification
  | welcome
  | passwordReset
  | orderConfirmation
  | orderStatus
  | shipping
  | promotional
  | newsletter
  | custom
  deriving DecidableEq

namespace TemplateType

/-- The name in metadata. -/
def name : TemplateType → String
  | verification => "verification"
  | welcome => "welcome"
  | passwordReset => "password_reset"
  | orderConfirmation => "order_confirmation"
  | orderStatus => "order_status"
  | shipping => "shipping"
  | promotional => "promotional"
  | newsletter => "newsletter"
  | custom => "custom"

/-- The types, in the order in which they are offered. -/
def all : List TemplateType :=
  [verification, welcome, passwordReset, orderConfirmation, orderStatus, shipping, promotional,
   newsletter, custom]

end TemplateType

/-- The sort of message that a template makes. -/
inductive TemplateCategory
  | transactional
  | marketing
  | notification
  | custom
  deriving DecidableEq

namespace TemplateCategory

/-- The name in metadata. -/
def name : TemplateCategory → String
  | transactional => "transactional"
  | marketing => "marketing"
  | notification => "notification"
  | custom => "custom"

/-- The categories, in the order in which they are offered. -/
def all : List TemplateCategory := [transactional, marketing, notification, custom]

end TemplateCategory

/-- What is known of a template beside its document. -/
structure Metadata where
  name : String
  subject : String
  type : TemplateType
  category : TemplateCategory
  isActive : Bool
  isDefault : Bool
  deriving DecidableEq

namespace Metadata

/-- The model of metadata. -/
def model : String := "TemplateMetadata"

/-- The metadata that the members of an object describe. -/
def ofObject (o : Json.Object) : Checked Metadata :=
  let name := o.required { wire := "name" } Json.asTrimmedText
  let subject := o.required { wire := "subject" } Json.asTrimmedText
  let type :=
    o.optional { wire := "type" } .custom (Json.asChoice TemplateType.name TemplateType.all)
  let category :=
    o.optional { wire := "category" } .custom
      (Json.asChoice TemplateCategory.name TemplateCategory.all)
  let isActive := o.optional { wire := "isActive", other := "is_active" } true Json.asBoolean
  let isDefault := o.optional { wire := "isDefault", other := "is_default" } false Json.asBoolean
  (name.both (subject.both (type.both (category.both (isActive.both isDefault))))).map
    fun (name, subject, type, category, isActive, isDefault) =>
      ⟨name, subject, type, category, isActive, isDefault⟩

/-- The metadata that a value describes. -/
def read (v : Json) : Checked Metadata := do ofObject (← v.asModel model)

/-- Metadata as the members of an object. -/
def toObject (m : Metadata) : Json.Object :=
  [("name", .str m.name), ("subject", .str m.subject), ("type", .str m.type.name),
   ("category", .str m.category.name), ("isActive", .bool m.isActive),
   ("isDefault", .bool m.isDefault)]

end Metadata
end MailTemplate
