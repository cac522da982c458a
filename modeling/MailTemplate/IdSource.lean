/-!
# Fresh block ids

An id is the kind of its block, a hyphen and a token. Tokens come from a script first, and then
from the number of tokens drawn so far.

* `IdSource`, `IdSource.token` and `IdSource.draw`: one token, one id;
* `IdSource.fresh`: the first drawn id that is not taken.
-/

namespace MailTemplate

/-- Where tokens come from: those still in the script, and how many have been drawn. -/
structure IdSource where
  script : List String
  drawn : Nat
  deriving DecidableEq

namespace IdSource

/-- The number of characters of a token. -/
def tokenLength : Nat := 12

/-- A number in hexadecimal, as long as a token at least. -/
def counterToken (n : Nat) : String :=
  let digits := Nat.toDigits 16 n
  String.ofList (List.replicate (tokenLength - digits.length) '0' ++ digits)

/-- The next token: the start of the next text of the script, or else the number of the draw. -/
def token (ids : IdSource) : String × IdSource :=
  match ids.script with
  | text :: script => (String.ofList (text.toList.take tokenLength), ⟨script, ids.drawn + 1⟩)
  | [] => (counterToken (ids.drawn + 1), ⟨[], ids.drawn + 1⟩)

/-- The next id for a block of a kind. -/
def draw (kind : String) (ids : IdSource) : String × IdSource :=
  let (t, rest) := ids.token
  (kind ++ "-" ++ t, rest)

/-- Draw until an id is not taken, at most a given number of times after the first. -/
def drawUntaken (kind : String) (taken : List String) : Nat → IdSource → String × IdSource
  | 0, ids => ids.draw kind
  | n + 1, ids =>
      let (id, rest) := ids.draw kind
      if taken.contains id then drawUntaken kind taken n rest else (id, rest)

/-- The first drawn id that is not taken. Tokens past the script differ from each other, so one
more draw than there are script texts and taken ids is enough. -/
def fresh (kind : String) (taken : List String) (ids : IdSource) : String × IdSource :=
  drawUntaken kind taken (ids.script.length + taken.length) ids

end IdSource
end MailTemplate
