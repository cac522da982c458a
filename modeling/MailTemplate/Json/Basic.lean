import MailTemplate.Decimal.Binary64

/-!
# JSON values

Integers of any size and binary floating-point numbers are kept apart, and the members of an object
have an order.

* `Json` and `Json.Object`, with decidable equality;
* `Json.Object.get?`, `put` and `merge`: reading and writing members by name;
* `Json.isTruthy`: neither empty, zero, false nor null;
* `Json.sameKey`: equality of two keys, in which numbers of all kinds compare by their value.
-/

namespace MailTemplate

/-- A JSON value. -/
inductive Json
  | null
  | bool (value : Bool)
  | int (value : Int)
  | float (value : Binary64)
  | str (value : String)
  | arr (items : List Json)
  | obj (members : List (String × Json))
  deriving Inhabited

namespace Json

/-- The members of an object, in order. -/
abbrev Object := List (String × Json)

/-! ### Equality -/

mutual

/-- Whether two values are the same. -/
def same : Json → Json → Bool
  | .null, .null => true
  | .bool a, .bool b => a = b
  | .int a, .int b => a = b
  | .float a, .float b => a = b
  | .str a, .str b => a = b
  | .arr a, .arr b => sameItems a b
  | .obj a, .obj b => sameMembers a b
  | _, _ => false

/-- Whether two lists of values are the same. -/
def sameItems : List Json → List Json → Bool
  | [], [] => true
  | a :: as, b :: bs => same a b && sameItems as bs
  | _, _ => false

/-- Whether two lists of members are the same. -/
def sameMembers : List (String × Json) → List (String × Json) → Bool
  | [], [] => true
  | (k, a) :: as, (l, b) :: bs => k = l && same a b && sameMembers as bs
  | _, _ => false

end

mutual

theorem same_iff : ∀ a b : Json, same a b = true ↔ a = b
  | .null, b => by cases b <;> simp [same]
  | .bool _, b => by cases b <;> simp [same]
  | .int _, b => by cases b <;> simp [same]
  | .float _, b => by cases b <;> simp [same]
  | .str _, b => by cases b <;> simp [same]
  | .arr as, b => by cases b <;> simp [same, sameItems_iff as]
  | .obj as, b => by cases b <;> simp [same, sameMembers_iff as]

theorem sameItems_iff : ∀ as bs : List Json, sameItems as bs = true ↔ as = bs
  | [], bs => by cases bs <;> simp [sameItems]
  | a :: as, bs => by cases bs <;> simp [sameItems, same_iff a, sameItems_iff as]

theorem sameMembers_iff :
    ∀ as bs : List (String × Json), sameMembers as bs = true ↔ as = bs
  | [], bs => by cases bs <;> simp [sameMembers]
  | (k, a) :: as, bs => by
      rcases bs with _ | ⟨⟨l, b⟩, bs⟩ <;>
        simp [sameMembers, same_iff a, sameMembers_iff as]

end

instance : DecidableEq Json := fun a b => decidable_of_iff _ (same_iff a b)

/-! ### Objects -/

namespace Object

/-- The value of the first member of a name. -/
def get? (o : Object) (name : String) : Option Json := o.lookup name

/-- Whether some member has a name. -/
def has (o : Object) (name : String) : Bool := (o.get? name).isSome

/-- The names of the members. -/
def names (o : Object) : List String := o.map (·.1)

/-- Replace the value of the first member of a name, or add the member at the end. -/
def put : Object → String → Json → Object
  | [], name, value => [(name, value)]
  | (n, v) :: o, name, value =>
      if n = name then (n, value) :: o else (n, v) :: put o name value

/-- Put all members of a second object, in order. -/
def merge (o p : Object) : Object := p.foldl (fun o (name, value) => o.put name value) o

@[simp] theorem get?_nil (name : String) : get? [] name = none := rfl

theorem get?_cons (n : String) (v : Json) (o : Object) (name : String) :
    get? ((n, v) :: o) name = if n = name then some v else get? o name := by
  by_cases h : n = name
  · subst h
    rw [get?, List.lookup_cons_self, if_pos rfl]
  · have : (name == n) = false := by simpa using fun e : name = n => h e.symm
    rw [get?, List.lookup_cons, this, if_neg h]
    rfl

theorem get?_put (o : Object) (name : String) (value : Json) (other : String) :
    (o.put name value).get? other = if name = other then some value else o.get? other := by
  induction o with
  | nil => simp [put, get?_cons]
  | cons m o ih => obtain ⟨n, v⟩ := m; grind [put, get?_cons]

end Object

/-! ### Scalars -/

/-- Everything but the empty values: null, false, the zeros, and the empty text, array and
object. -/
def isTruthy : Json → Bool
  | .null => false
  | .bool b => b
  | .int n => n != 0
  | .float x => !x.isZero
  | .str s => s != ""
  | .arr items => !items.isEmpty
  | .obj members => !members.isEmpty

/-- Neither an array nor an object. -/
def isScalar : Json → Bool
  | .arr _ => false
  | .obj _ => false
  | _ => true

/-- The integer that a scalar equals: itself, 0 or 1 for a boolean, the number of a float. -/
def whole? : Json → Option Int
  | .bool b => some (if b then 1 else 0)
  | .int n => some n
  | .float x => x.whole?
  | _ => none

/-- Whether two values are one key: whole numbers and booleans are compared by their value, and any
other value, NaN included, is the key that it is. -/
def sameKey (a b : Json) : Bool :=
  match a.whole?, b.whole? with
  | some m, some n => m = n
  | none, none => a = b
  | _, _ => false

/-- The text that a value is, if it is one. -/
def text? : Json → Option String
  | .str s => some s
  | _ => none

/-- The members of a value, if it is an object. -/
def object? : Json → Option Object
  | .obj members => some members
  | _ => none

end Json
end MailTemplate
