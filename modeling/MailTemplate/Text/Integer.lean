/-!
# The texts of integers

Integers may have any size, but only those of not too many digits are read from a text and have one
themselves.

* `Text.digitsLimit`: the greatest number of digits;
* `Text.ofInteger?`: the text of an integer.
-/

namespace MailTemplate.Text

/-- The greatest number of digits of an integer that is read from a text or shown as one. -/
def digitsLimit : Nat := 4300

/-- The text of an integer, unless it has too many digits. -/
def ofInteger? (n : Int) : Option String :=
  if (Nat.toDigits 10 n.natAbs).length ≤ digitsLimit then some (toString n) else none

end MailTemplate.Text
