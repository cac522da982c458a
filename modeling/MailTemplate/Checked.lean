import MailTemplate.Text.Quoted

/-!
# Checked values

Reading a value collects every fault in it, each with the path to its place.

* `Fault`: what can be wrong, with its `code` and its `message`;
* `Issue`: a fault and where it is;
* `Checked`: a value, or all issues found instead;
* `Checked.both` and `Checked.all`: parts side by side, the issues in the order of the parts.
-/

namespace MailTemplate

/-- One step of a path into a value. -/
inductive PathStep
  | key (name : String)
  | index (position : Nat)
  deriving DecidableEq

/-- What can be wrong with a value. -/
inductive Fault
  | missing
  | expectedText
  | emptyText
  | expectedInteger
  | unreadableInteger
  | fractionalInteger
  | oversizedInteger
  | infiniteInteger
  | expectedNumber
  | expectedBoolean
  | unreadableBoolean
  | expectedList
  | expectedSequence
  | expectedDictionary
  | expectedModel (model : String)
  | expectedTagged
  | missingTag (tagName : String)
  | unknownTag (tagName tag : String) (tags : List String)
  | notAChoice (choices : List String)
  | repeatedId (id : String)
  deriving DecidableEq

namespace Fault

/-- The machine-readable name of a fault. -/
def code : Fault → String
  | missing => "missing"
  | expectedText => "string_type"
  | emptyText => "string_too_short"
  | expectedInteger => "int_type"
  | unreadableInteger => "int_parsing"
  | fractionalInteger => "int_from_float"
  | oversizedInteger => "int_parsing_size"
  | infiniteInteger => "finite_number"
  | expectedNumber => "float_type"
  | expectedBoolean => "bool_type"
  | unreadableBoolean => "bool_parsing"
  | expectedList => "list_type"
  | expectedSequence => "tuple_type"
  | expectedDictionary => "dict_type"
  | expectedModel _ => "model_type"
  | expectedTagged => "model_attributes_type"
  | missingTag _ => "union_tag_not_found"
  | unknownTag _ _ _ => "union_tag_invalid"
  | notAChoice _ => "literal_error"
  | repeatedId _ => "value_error"

/-- A text between apostrophes, as it is. -/
def inApostrophes (s : String) : String := "'" ++ s ++ "'"

/-- Alternatives, the last one after an "or". -/
def alternatives : List String → String
  | [] => ""
  | [a] => inApostrophes a
  | [a, b] => inApostrophes a ++ " or " ++ inApostrophes b
  | a :: rest => inApostrophes a ++ ", " ++ alternatives rest

/-- The wording of a fault. -/
def message : Fault → String
  | missing => "Field required"
  | expectedText => "Input should be a valid string"
  | emptyText => "String should have at least 1 character"
  | expectedInteger => "Input should be a valid integer"
  | unreadableInteger =>
      "Input should be a valid integer, unable to parse string as an integer"
  | fractionalInteger =>
      "Input should be a valid integer, got a number with a fractional part"
  | oversizedInteger =>
      "Unable to parse input string as an integer, exceeded maximum size"
  | infiniteInteger => "Input should be a finite number"
  | expectedNumber => "Input should be a valid number"
  | expectedBoolean => "Input should be a valid boolean"
  | unreadableBoolean => "Input should be a valid boolean, unable to interpret input"
  | expectedList => "Input should be a valid list"
  | expectedSequence => "Input should be a valid tuple"
  | expectedDictionary => "Input should be a valid dictionary"
  | expectedModel model => "Input should be a valid dictionary or instance of " ++ model
  | expectedTagged => "Input should be a valid dictionary or object to extract fields from"
  | missingTag tagName => "Unable to extract tag using discriminator " ++ inApostrophes tagName
  | unknownTag tagName tag tags =>
      "Input tag " ++ inApostrophes tag ++ " found using " ++ inApostrophes tagName ++
        " does not match any of the expected tags: " ++
        ", ".intercalate (tags.map inApostrophes)
  | notAChoice choices => "Input should be " ++ alternatives choices
  | repeatedId id => "Value error, Id de bloc en double : " ++ Text.quoted id

end Fault

/-- A fault and the path to its place. -/
structure Issue where
  path : List PathStep
  fault : Fault
  deriving DecidableEq

/-- A value, or the issues found instead of it. -/
abbrev Checked (α : Type) := Except (List Issue) α

namespace Checked

/-- A single fault, at the place of the value itself. -/
def fail {α : Type} (fault : Fault) : Checked α := .error [⟨[], fault⟩]

/-- A part of a larger value, whose issues lie one step further down. -/
def under {α : Type} (step : PathStep) : Checked α → Checked α
  | .ok a => .ok a
  | .error issues => .error (issues.map fun i => { i with path := step :: i.path })

/-- Two parts side by side. -/
def both {α β : Type} : Checked α → Checked β → Checked (α × β)
  | .ok a, .ok b => .ok (a, b)
  | .ok _, .error issues => .error issues
  | .error issues, .ok _ => .error issues
  | .error first, .error second => .error (first ++ second)

/-- Any number of parts side by side. -/
def all {α : Type} : List (Checked α) → Checked (List α)
  | [] => .ok []
  | c :: cs => (c.both (all cs)).map fun (a, as) => a :: as

end Checked
end MailTemplate
