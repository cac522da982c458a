import MailTemplate.Failure
import MailTemplate.Placeholder

/-!
# Template variables

* `Variable` and `Variable.named`: a variable of a template, and one with a name only;
* `Variable.read` and `toJson`: a variable from and as JSON;
* `Variable.ofText` and `search`: the variables of a text, and the names in a value;
* `Variable.common`: the names that the palette offers.
-/

namespace MailTemplate

/-- A variable of a template. -/
structure Variable where
  name : String
  placeholder : String
  defaultValue : String
  description : String
  deriving DecidableEq

namespace Variable

/-- The model of a variable. -/
def model : String := "TemplateVariable"

/-- A variable of which only the name is known. -/
def named (name : String) : Variable := ⟨name, name, "", ""⟩

/-- The members of a variable with its name as the placeholder, if that is absent or empty. -/
def completed (o : Json.Object) : Json.Object :=
  if ((o.get? "placeholder").filter Json.isTruthy).isSome then o
  else o.put "placeholder" ((o.get? "name").getD (.str ""))

/-- The variable that the members of an object describe. -/
def ofObject (o : Json.Object) : Checked Variable :=
  let name := o.required { wire := "name" } Json.asText
  let placeholder := o.optional { wire := "placeholder" } "" Json.asText
  let defaultValue :=
    o.optional { wire := "defaultValue", other := "default_value" } "" Json.asText
  let description := o.optional { wire := "description" } "" Json.asText
  (name.both (placeholder.both (defaultValue.both description))).map
    fun (name, placeholder, defaultValue, description) =>
      ⟨name, placeholder, defaultValue, description⟩

/-- The variable that a value describes. -/
def read (v : Json) : Checked Variable := do ofObject (completed (← v.asModel model))

/-- A variable as JSON. -/
def toJson (v : Variable) : Json :=
  .obj [("name", .str v.name), ("placeholder", .str v.placeholder),
    ("defaultValue", .str v.defaultValue), ("description", .str v.description)]

/-- The variables of a text, one for each name. -/
def ofText (text : String) : List Variable := (Placeholder.names text).map named

/-- The names of the variables of a value that should be a text; empty values have none. -/
def search (v : Json) : Except Failure (List String) :=
  if !v.isTruthy then .ok []
  else
    match v with
    | .str s => .ok (Placeholder.names s)
    | _ => .error .notText

/-- The names that the palette offers. -/
def common : List String :=
  ["name", "email", "title", "content", "buttonText", "buttonLink", "orderNumber",
   "verificationLink"]

end Variable
end MailTemplate
