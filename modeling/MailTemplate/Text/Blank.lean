/-!
# Blank characters

* `isBlank`: the characters with the Unicode property `White_Space`;
* `isGap`: these and the four information separators, which many programs also skip;
* `trim`: a text without the characters of a class at either end.
-/

namespace MailTemplate.Text

/-- The characters with the property `White_Space`. -/
def isBlank (c : Char) : Bool :=
  let n := c.toNat
  (0x09 ≤ n && n ≤ 0x0D) || n = 0x20 || n = 0x85 || n = 0xA0 || n = 0x1680 ||
    (0x2000 ≤ n && n ≤ 0x200A) || n = 0x2028 || n = 0x2029 || n = 0x202F || n = 0x205F ||
    n = 0x3000

/-- A blank, or one of the separators of files, groups, records and units. -/
def isGap (c : Char) : Bool := isBlank c || (0x1C ≤ c.toNat && c.toNat ≤ 0x1F)

/-- The characters that are left when those of a class are taken off both ends. -/
def trimChars (p : Char → Bool) (cs : List Char) : List Char :=
  ((cs.dropWhile p).reverse.dropWhile p).reverse

/-- A text without the characters of a class at either end. -/
def trim (p : Char → Bool) (s : String) : String := String.ofList (trimChars p s.toList)

@[simp] theorem toList_trim (p : Char → Bool) (s : String) :
    (trim p s).toList = trimChars p s.toList := by
  simp [trim]

end MailTemplate.Text
