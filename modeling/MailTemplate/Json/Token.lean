import MailTemplate.Json.Basic
import MailTemplate.Text.Integer
import MailTemplate.Text.Numeral

/-!
# The tokens of a JSON text

A text is cut into tokens by one fold over its characters.

* `Json.Token`: brackets, separators and scalars;
* `Json.scalar?`: the value of a word outside quotes;
* `Json.ofUnits?`: the text that a list of UTF-16 units stands for;
* `Json.tokens?`: the tokens of a text.
-/

namespace MailTemplate.Json

/-- A token of a JSON text. -/
inductive Token
  | openArray
  | closeArray
  | openObject
  | closeObject
  | colon
  | comma
  | scalar (value : Json)

/-- The exponent that ends a number, zero if there is none. -/
def exponent? : List Char → Option Int
  | [] => some 0
  | e :: cs =>
      let digits := Text.dropSign cs
      if (e = 'e' || e = 'E') && !digits.isEmpty && digits.all Char.isDigit then
        some (if cs.head? = some '-' then -(Text.digitsValue digits : Int)
          else Text.digitsValue digits)
      else none

/-- The value of a number: an integer, of not too many digits, unless it has a point or an
exponent. -/
def number? (cs : List Char) : Option Json :=
  let negative := cs.head? = some '-'
  let body := if negative then cs.drop 1 else cs
  let whole := body.takeWhile Char.isDigit
  let float (fraction rest : List Char) : Option Json := do
    let exponent ← exponent? rest
    some (.float (Binary64.ofScientific negative (Text.digitsValue (whole ++ fraction))
      (exponent - fraction.length)))
  if whole.isEmpty || (whole.head? = some '0' && whole.length != 1) then none
  else
    match body.dropWhile Char.isDigit with
    | [] =>
        let n := Text.digitsValue whole
        if whole.length ≤ Text.digitsLimit then some (.int (if negative then -(n : Int) else n))
        else none
    | '.' :: rest =>
        let fraction := rest.takeWhile Char.isDigit
        if fraction.isEmpty then none else float fraction (rest.dropWhile Char.isDigit)
    | rest => float [] rest

/-- The value of a word outside quotes. -/
def scalar? (cs : List Char) : Option Json :=
  match String.ofList cs with
  | "null" => some .null
  | "true" => some (.bool true)
  | "false" => some (.bool false)
  | "NaN" => some (.float Binary64.nan)
  | "Infinity" => some (.float (Binary64.infinity false))
  | "-Infinity" => some (.float (Binary64.infinity true))
  | _ => number? cs

/-- The characters that UTF-16 units stand for; a surrogate without its partner stands for none. -/
def ofUnits? : List Nat → Option (List Char)
  | [] => some []
  | u :: us =>
      if 0xD800 ≤ u && u ≤ 0xDBFF then
        match us with
        | v :: vs =>
            if 0xDC00 ≤ v && v ≤ 0xDFFF then
              (ofUnits? vs).map
                (Char.ofNat (0x10000 + (u - 0xD800) * 0x400 + (v - 0xDC00)) :: ·)
            else none
        | [] => none
      else if 0xDC00 ≤ u && u ≤ 0xDFFF then none
      else (ofUnits? us).map (Char.ofNat u :: ·)

/-- Where in a text a character stands. -/
inductive Mode
  /-- Between tokens. -/
  | idle
  /-- In a word; its characters so far, the last one first. -/
  | word (chars : List Char)
  /-- Between quotes; the units so far, the last one first. -/
  | quoted (units : List Nat)
  /-- After a backslash. -/
  | escaped (units : List Nat)
  /-- In an escape by number, with the digits read and their value. -/
  | numbered (units : List Nat) (digits value : Nat)

/-- What has been read: the mode, and the tokens so far, the last one first. -/
structure Scan where
  mode : Mode
  tokens : List Token

/-- The characters that may stand around tokens. -/
def isSpace (c : Char) : Bool := c = ' ' || c = '\t' || c = '\n' || c = '\r'

/-- The token that a single character is. -/
def punctuation? : Char → Option Token
  | '[' => some .openArray
  | ']' => some .closeArray
  | '\x7b' => some .openObject
  | '\x7d' => some .closeObject
  | ':' => some .colon
  | ',' => some .comma
  | _ => none

/-- The unit that an escape by letter stands for. -/
def escape? : Char → Option Nat
  | '"' => some 0x22
  | '\\' => some 0x5C
  | '/' => some 0x2F
  | 'b' => some 0x08
  | 'f' => some 0x0C
  | 'n' => some 0x0A
  | 'r' => some 0x0D
  | 't' => some 0x09
  | _ => none

/-- The value of a hexadecimal digit. -/
def hexDigit? (c : Char) : Option Nat :=
  if '0' ≤ c && c ≤ '9' then some (c.toNat - '0'.toNat)
  else if 'a' ≤ c && c ≤ 'f' then some (c.toNat - 'a'.toNat + 10)
  else if 'A' ≤ c && c ≤ 'F' then some (c.toNat - 'A'.toNat + 10)
  else none

namespace Scan

/-- A character between tokens. -/
def idle (tokens : List Token) (c : Char) : Scan :=
  if isSpace c then ⟨.idle, tokens⟩
  else if c = '"' then ⟨.quoted [], tokens⟩
  else
    match punctuation? c with
    | some t => ⟨.idle, t :: tokens⟩
    | none => ⟨.word [c], tokens⟩

/-- Read one character. -/
def step (s : Scan) (c : Char) : Option Scan :=
  match s.mode with
  | .idle => some (idle s.tokens c)
  | .word chars =>
      if isSpace c || c = '"' || (punctuation? c).isSome then
        (scalar? chars.reverse).map fun v => idle (.scalar v :: s.tokens) c
      else some ⟨.word (c :: chars), s.tokens⟩
  | .quoted units =>
      if c = '"' then
        (ofUnits? units.reverse).map fun cs =>
          ⟨.idle, .scalar (.str (String.ofList cs)) :: s.tokens⟩
      else if c = '\\' then some ⟨.escaped units, s.tokens⟩
      else some ⟨.quoted (c.toNat :: units), s.tokens⟩
  | .escaped units =>
      if c = 'u' then some ⟨.numbered units 0 0, s.tokens⟩
      else (escape? c).map fun u => ⟨.quoted (u :: units), s.tokens⟩
  | .numbered units digits value =>
      (hexDigit? c).map fun d =>
        if digits = 3 then ⟨.quoted ((16 * value + d) :: units), s.tokens⟩
        else ⟨.numbered units (digits + 1) (16 * value + d), s.tokens⟩

/-- The tokens in order, once the text has ended. -/
def finish (s : Scan) : Option (List Token) :=
  match s.mode with
  | .idle => some s.tokens.reverse
  | .word chars => (scalar? chars.reverse).map fun v => (.scalar v :: s.tokens).reverse
  | _ => none

end Scan

/-- The tokens of a text, unless a word or a quoted text in it is malformed. -/
def tokens? (cs : List Char) : Option (List Token) :=
  (cs.foldlM Scan.step ⟨.idle, []⟩).bind Scan.finish

end MailTemplate.Json
