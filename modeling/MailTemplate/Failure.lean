import MailTemplate.Kind

/-!
# Failures

* `Failure`: why an operation gives no result;
* `Failure.message`: the wording of those that are worded;
* `Json.namedValues`: values given by name, some names being reserved;
* `Kind.resolve`: the kind that a value names.
-/

namespace MailTemplate

/-- Why an operation gives no result. -/
inductive Failure
  /-- A value that should describe a model has issues. -/
  | invalid (model : String) (issues : List Issue)
  /-- A value names no kind. -/
  | unknownKind (kind : Json)
  /-- No block of the document has an id. -/
  | unknownBlock (id : Json)
  /-- A document of some size has no block at a position. -/
  | outside (index : Int) (size : Nat)
  /-- An array or an object stands where a scalar is looked up. -/
  | notScalar
  /-- Something without items stands where items are read. -/
  | notIterable
  /-- Something that is not a text is searched, or something that has no text is shown. -/
  | notText
  /-- Something that is not an object stands where named values are read. -/
  | notAnObject
  /-- A named value has a name that is not free, or named values have no names. -/
  | misnamed
  /-- A value that has to be given is not there. -/
  | lacking (name : String)
  deriving DecidableEq

namespace Failure

/-- The wording of a failure, if it has one. A value without a text cannot be worded. -/
def message? : Failure → Option String
  | unknownKind kind => do
      some ("Bloc inconnu : " ++ (← kind.literal?) ++ ". Registry : " ++
        (← (Json.arr (Kind.names.map .str)).literal?))
  | unknownBlock id => id.literal?.map ("Bloc introuvable : " ++ ·)
  | outside index size =>
      (Text.ofInteger? index).map fun index =>
        "Index hors document : " ++ index ++ " (taille " ++ toString size ++ ")"
  | _ => none

/-- The wording of a failure, empty if it has none. -/
def message (failure : Failure) : String := failure.message?.getD ""

end Failure

/-- The values that an object gives by name. A reserved name is not free for any of them. -/
def Json.namedValues (reserved : List String) : Json → Except Failure Json.Object
  | .obj values =>
      if values.any fun (name, _) => reserved.contains name then .error .misnamed
      else .ok values
  | _ => .error .misnamed

namespace Checked

/-- The value of a model, or the failure to read it. -/
def orInvalid {α : Type} (model : String) : Checked α → Except Failure α
  | .ok a => .ok a
  | .error issues => .error (.invalid model issues)

end Checked

namespace Kind

/-- Whether a value names a kind; arrays and objects cannot be looked up. -/
def isName (v : Json) : Except Failure Bool :=
  if v.isScalar then .ok (v.text?.bind ofName?).isSome else .error .notScalar

/-- The kind that a value names. -/
def resolve (v : Json) : Except Failure Kind :=
  if v.isScalar then
    match v.text?.bind ofName? with
    | some kind => .ok kind
    | none => .error (.unknownKind v)
  else .error .notScalar

end Kind
end MailTemplate
