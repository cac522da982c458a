/-!
# Placeholders

A placeholder is a name of letters, digits and underscores between two pairs of braces.

* `Placeholder.written`: the written form of a name;
* `Placeholder.nameAt?`: the name whose placeholder stands at the start of a text;
* `Placeholder.occurrences`: the names of all placeholders in a text, in order;
* `Placeholder.names`: the names without repetitions.
-/

namespace MailTemplate.Placeholder

/-- The characters of names: letters, digits and underscores, in ASCII only. -/
def isWordChar (c : Char) : Bool := c.isAlphanum || c = '_'

/-- The placeholder of a name. -/
def written (name : String) : String := "\x7b\x7b" ++ name ++ "\x7d\x7d"

/-- The name whose placeholder stands at the start of a text. -/
def nameAt? : List Char → Option String
  | '\x7b' :: '\x7b' :: cs =>
      let name := cs.takeWhile isWordChar
      match cs.dropWhile isWordChar with
      | '\x7d' :: '\x7d' :: _ => if name.isEmpty then none else some (String.ofList name)
      | _ => none
  | _ => none

/-- The names of the placeholders in a text. No two placeholders overlap, since a name has no
braces, so each position is looked at by itself. -/
def occurrences : List Char → List String
  | [] => []
  | c :: cs => (nameAt? (c :: cs)).toList ++ occurrences cs

/-- The names of the placeholders in a text, each at its first occurrence only. -/
def names (text : String) : List String := (occurrences text.toList).eraseDups

end MailTemplate.Placeholder
