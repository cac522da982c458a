import MailTemplate.Proofs.Json.Writable
import MailTemplate.Proofs.Text.Numeral
import MailTemplate.Proofs.Text.Trimmed

/-!
# Lengths in style sheets

A length in a style sheet is in its final form: taken as a text it stands for itself, and gaps around
a number do not count. An integer of too many digits has no such form.

* `Text.numeral_toString`: integers are written as numerals;
* `DecimalLayout.forall_mem_text`: the characters of floating-point numbers;
* `Pixels.textCss_eq` and `textCss_append_unit`: texts, and texts with the unit;
* `Pixels.css?_eq_none_iff`: lengths without a form;
* `Pixels.css_normalizes`: lengths of all sorts.
-/

namespace MailTemplate

/-! ### Integers -/

namespace Text

theorem isDecimalDigit_of_isDigit {c : Char} (h : c.isDigit = true) : isDecimalDigit c = true := by
  obtain ⟨hlow, hhigh⟩ := Char.isDigit_iff_toNat.mp h
  have hzero : 0x30 ≤ c.toNat ∧ c.toNat < 0x30 + 10 := ⟨hlow, Nat.lt_succ_of_le hhigh⟩
  exact List.any_eq_true.mpr ⟨0x30, by decide, by simpa using hzero⟩

theorem isGap_of_isDigit {c : Char} (h : c.isDigit = true) : isGap c = false := by
  obtain ⟨hlow, hhigh⟩ := Char.isDigit_iff_toNat.mp h
  have hlow : 48 ≤ c.toNat := hlow
  have hhigh : c.toNat ≤ 57 := hhigh
  grind [isGap, isBlank]

/-- Digits without underscores. -/
theorem Digits.of_forall {isDigit : Char → Bool} {cs : List Char} (hne : cs ≠ [])
    (h : ∀ c ∈ cs, isDigit c = true) : Digits isDigit cs := by
  induction cs with
  | nil => contradiction
  | cons c cs ih =>
    obtain ⟨hc, hcs⟩ := List.forall_mem_cons.mp h
    cases cs with
    | nil => exact .single hc
    | cons d ds => exact .cons hc (ih (List.cons_ne_nil d ds) hcs)

/-- An integer is written with digits, after a sign if it is negative. -/
theorem exists_toString (n : Int) :
    ∃ sign m, IsSign sign ∧ (toString n).toList = sign ++ Nat.toDigits 10 m := by
  rw [Int.toString_eq_repr, Int.repr_eq_if]
  split
  · exact ⟨[], n.toNat, .inl rfl, Nat.toList_repr⟩
  · exact ⟨['-'], (-n).toNat, .inr (.inr rfl), by simp⟩

theorem isGap_of_mem_toString {n : Int} {c : Char} (h : c ∈ (toString n).toList) :
    isGap c = false := by
  obtain ⟨sign, m, hsign, htext⟩ := exists_toString n
  rw [htext] at h
  rcases List.mem_append.mp h with hc | hc
  · rcases hsign with rfl | rfl | rfl
    · contradiction
    · obtain rfl := List.mem_singleton.mp hc
      decide
    · obtain rfl := List.mem_singleton.mp hc
      decide
  · exact isGap_of_isDigit (Nat.isDigit_of_mem_toDigits (by decide) (by decide) hc)

theorem numeral_toString (n : Int) : Numeral (toString n).toList := by
  obtain ⟨sign, m, hsign, htext⟩ := exists_toString n
  have hdigits : Digits isDecimalDigit (Nat.toDigits 10 m) :=
    .of_forall Nat.toDigits_ne_nil fun c hc => isDecimalDigit_of_isDigit
      (Nat.isDigit_of_mem_toDigits (by decide) (by decide) hc)
  rw [htext, ← List.append_nil (Nat.toDigits 10 m)]
  exact .decimal hsign (.whole hdigits) .absent

end Text

/-! ### Floating-point numbers -/

theorem Decimal.isDigit_of_mem_digits {d : Decimal} {c : Char} (h : c ∈ d.digits) :
    c.isDigit = true := by
  have hdrop : c ∈ (Nat.toDigits 10 d.mantissa).reverse.dropWhile (· = '0') := List.mem_reverse.mp h
  exact Nat.isDigit_of_mem_toDigits (by decide) (by decide)
    (List.mem_reverse.mp ((List.dropWhile_suffix _).mem hdrop))

namespace DecimalLayout

variable {p : Char → Prop}

section Characters

variable (hdigit : ∀ c, c.isDigit = true → p c) (hmark : ∀ c ∈ ['-', '+', '.', 'e'], p c)
include hdigit

theorem forall_mem_zeros (n : Nat) : ∀ c ∈ List.replicate n '0', p c := by
  intro c hc
  rw [List.eq_of_mem_replicate hc]
  exact hdigit '0' (by decide)

theorem forall_mem_padded (width : Nat) {digits : List Char}
    (h : ∀ c ∈ digits, c.isDigit = true) : ∀ c ∈ padded width digits, p c :=
  List.forall_mem_append.mpr ⟨forall_mem_zeros hdigit _, fun c hc => hdigit c (h c hc)⟩

include hmark

theorem forall_mem_positional {digits : List Char} (h : ∀ c ∈ digits, c.isDigit = true)
    (point : Int) : ∀ c ∈ positional digits point, p c := by
  have hpoint : p '.' := hmark '.' (by decide)
  have hzero : ∀ c ∈ ['0'], p c := List.forall_mem_singleton.mpr (hdigit '0' (by decide))
  have hdigits : ∀ c ∈ digits, p c := fun c hc => hdigit c (h c hc)
  unfold positional
  split
  · refine List.forall_mem_append.mpr
      ⟨List.forall_mem_append.mpr ⟨?_, forall_mem_zeros hdigit _⟩, hdigits⟩
    exact List.forall_mem_cons.mpr ⟨hdigit '0' (by decide), List.forall_mem_singleton.mpr hpoint⟩
  · refine List.forall_mem_append.mpr ⟨List.forall_mem_append.mpr
      ⟨fun c hc => hdigits c (List.mem_of_mem_take hc), forall_mem_zeros hdigit _⟩,
      List.forall_mem_cons.mpr ⟨hpoint, ?_⟩⟩
    split
    · exact hzero
    · exact fun c hc => hdigits c (List.mem_of_mem_drop hc)

theorem forall_mem_scientific (layout : DecimalLayout) {digits : List Char}
    (h : ∀ c ∈ digits, c.isDigit = true) (exponent : Int) :
    ∀ c ∈ layout.scientific digits exponent, p c := by
  have hdigits : ∀ c ∈ digits, p c := fun c hc => hdigit c (h c hc)
  have hexponent : ∀ c ∈ Nat.toDigits 10 exponent.natAbs, c.isDigit = true :=
    fun c hc => Nat.isDigit_of_mem_toDigits (by decide) (by decide) hc
  unfold scientific
  refine List.forall_mem_append.mpr ⟨List.forall_mem_append.mpr
    ⟨fun c hc => hdigits c (List.mem_of_mem_take hc), ?_⟩,
    List.forall_mem_cons.mpr ⟨hmark 'e' (by decide), List.forall_mem_cons.mpr
      ⟨?_, forall_mem_padded hdigit _ hexponent⟩⟩⟩
  · split
    · exact List.forall_mem_nil _
    · exact List.forall_mem_cons.mpr
        ⟨hmark '.' (by decide), fun c hc => hdigits c (List.mem_of_mem_drop hc)⟩
  · split
    · exact hmark '-' (by decide)
    · exact hmark '+' (by decide)

theorem forall_mem_unsignedText (layout : DecimalLayout) (x : Binary64) :
    ∀ c ∈ layout.unsignedText x, p c := by
  have hdigits : ∀ c ∈ x.shortest.digits, c.isDigit = true :=
    fun c hc => Decimal.isDigit_of_mem_digits hc
  unfold unsignedText
  split
  · have hzero : p '0' := hdigit '0' (by decide)
    simpa [hzero] using hmark '.' (by decide)
  · dsimp only
    split
    · exact forall_mem_positional hdigit hmark hdigits _
    · exact forall_mem_scientific hdigit hmark layout hdigits _

/-- The text of a number has digits, signs, a point and the letter of an exponent, or it is one of
the two names, after a sign or not. -/
theorem forall_mem_text (layout : DecimalLayout) (hinfinite : ∀ c ∈ layout.infinite.toList, p c)
    (hnan : ∀ c ∈ layout.notANumber.toList, p c) (x : Binary64) :
    ∀ c ∈ (layout.text x).toList, p c := by
  unfold text
  split
  · exact hnan
  · rw [String.toList_append]
    refine List.forall_mem_append.mpr ⟨?_, ?_⟩
    · split
      · exact List.forall_mem_singleton.mpr (hmark '-' (by decide))
      · exact List.forall_mem_nil _
    · split
      · rw [String.toList_ofList]
        exact forall_mem_unsignedText hdigit hmark layout x
      · exact hinfinite

end Characters

end DecimalLayout

/-! ### Lengths -/

namespace Pixels

open Text

/-- A text without the gaps at its ends, and with the unit if the grammar of numerals generates it. -/
theorem textCss_eq (s : String) :
    textCss s = if Numeral (trim isGap s).toList then trim isGap s ++ "px" else trim isGap s := by
  simp only [textCss, unit, isNumeral_iff]

/-- A text with the unit at its end is no numeral. -/
theorem not_numeral_append_unit (t : String) : ¬ Numeral (t ++ "px").toList := by
  intro h
  have hx : InAlphabet 'x' := h.inAlphabet 'x' (by simp)
  revert hx
  unfold InAlphabet
  decide

/-- A text that starts with no gap is left as it is once it has the unit. -/
theorem textCss_append_unit {t : String} (h : ∀ c, t.toList.head? = some c → isGap c = false) :
    textCss (t ++ "px") = t ++ "px" := by
  have htrimmed : Trimmed isGap (t ++ "px").toList := by
    rw [String.toList_append]
    refine ⟨fun c hc => ?_, fun c hc => ?_⟩
    · cases hhead : t.toList.head? with
      | some d =>
        rw [List.head?_append, hhead, Option.some_or] at hc
        exact h c (hhead.trans hc)
      | none =>
        rw [List.head?_append, hhead, Option.none_or] at hc
        obtain rfl : 'p' = c := by simpa using hc
        decide
    · obtain rfl : 'x' = c := by simpa using hc
      decide
  have htrim : trim isGap (t ++ "px") = t ++ "px" := by
    rw [trim, htrimmed.trimChars_eq, String.ofList_toList]
  rw [textCss_eq, htrim, if_neg (not_numeral_append_unit t)]

theorem isGap_of_mem_text {x : Binary64} {c : Char} (h : c ∈ (Json.numberLayout.text x).toList) :
    isGap c = false := by
  have hmark : ∀ c ∈ ['-', '+', '.', 'e'], (!isGap c) = true := List.all_eq_true.mp (by decide)
  have hinfinite : ∀ c ∈ Json.numberLayout.infinite.toList, (!isGap c) = true :=
    List.all_eq_true.mp (by decide)
  have hnan : ∀ c ∈ Json.numberLayout.notANumber.toList, (!isGap c) = true :=
    List.all_eq_true.mp (by decide)
  have hdigit : ∀ c, c.isDigit = true → (!isGap c) = true := by
    intro c hc
    rw [isGap_of_isDigit hc]
    rfl
  simpa using DecimalLayout.forall_mem_text hdigit hmark _ hinfinite hnan x c h

/-- The form of a text is left as it is. -/
theorem textCss_textCss (s : String) : textCss (textCss s) = textCss s := by
  have htrimmed := trimmed_trimChars isGap s.toList
  by_cases hnumeral : Numeral (trim isGap s).toList
  · have hform : textCss s = trim isGap s ++ "px" := (textCss_eq s).trans (if_pos hnumeral)
    rw [hform]
    refine textCss_append_unit fun c hc => htrimmed.head c ?_
    rwa [toList_trim] at hc
  · have hform : textCss s = trim isGap s := (textCss_eq s).trans (if_neg hnumeral)
    rw [hform, textCss_eq, trim_trim, if_neg hnumeral]

/-- Digits and signs are no gaps, so that the length of an integer is left as it is. -/
theorem textCss_integer (n : Int) : textCss (toString n ++ "px") = toString n ++ "px" :=
  textCss_append_unit fun _ hc => isGap_of_mem_toString (List.mem_of_head? hc)

theorem textCss_float (x : Binary64) :
    textCss (Json.numberLayout.text x ++ "px") = Json.numberLayout.text x ++ "px" :=
  textCss_append_unit fun _ hc => isGap_of_mem_text (List.mem_of_head? hc)

@[simp] theorem css?_text (s : String) : css? (.text s) = some (textCss s) := rfl

/-- The form of a length, where there is one, stands for itself. -/
theorem css?_bind_css? (v : Pixels) : v.css?.bind (fun s => css? (.text s)) = v.css? := by
  cases v with
  | int n =>
    rw [css?, unit, ofInteger?]
    split
    · rw [Option.map_some, Option.bind_some, css?_text, textCss_integer]
    · rfl
  | float x => rw [css?, unit, Option.bind_some, css?_text, textCss_float]
  | text s => rw [css?_text, Option.bind_some, css?_text, textCss_textCss]

theorem css?_eq_none_iff {v : Pixels} :
    v.css? = none ↔ ∃ n : Int, v = .int n ∧ digitsLimit < (Nat.toDigits 10 n.natAbs).length := by
  cases v with
  | int n => simp [css?, ofInteger?_eq_none_iff]
  | float x => simp [css?]
  | text s => simp

/-- Gaps around an integer do not count. -/
theorem textCss_padded (n : Int) {before after : String}
    (hbefore : ∀ c ∈ before.toList, isGap c = true)
    (hafter : ∀ c ∈ after.toList, isGap c = true) :
    textCss (before ++ toString n ++ after) = toString n ++ "px" := by
  have hgap : ∀ c ∈ (toString n).toList, isGap c = false := fun c hc => isGap_of_mem_toString hc
  have htrimmed : Trimmed isGap (toString n).toList :=
    ⟨fun c hc => hgap c (List.mem_of_head? hc), fun c hc => hgap c (List.mem_of_getLast? hc)⟩
  have hbody : TrimmedOf isGap (before ++ toString n ++ after).toList (toString n).toList :=
    ⟨htrimmed, before.toList, after.toList, by simp, hbefore, hafter⟩
  have htrim : trim isGap (before ++ toString n ++ after) = toString n := by
    rw [trim, hbody.trimChars_eq, String.ofList_toList]
  rw [textCss_eq, htrim, if_pos (numeral_toString n)]

/-- A length in a style sheet is a length that stands for itself. Only integers of too many digits
have none, since they have no text. A text is taken without the gaps at its ends, and it gets the unit
if the rest is a numeral. So gaps around an integer do not count, whether it has a text or not. -/
theorem css_normalizes :
    (∀ v : Pixels, v.css?.bind (fun s => css? (.text s)) = v.css?) ∧
    (∀ v : Pixels, v.css? = none ↔
      ∃ n : Int, v = .int n ∧ digitsLimit < (Nat.toDigits 10 n.natAbs).length) ∧
    (∀ s : String, ∃ body : String, TrimmedOf isGap s.toList body.toList ∧
      css? (.text s) = some (if Numeral body.toList then body ++ "px" else body)) ∧
    ∀ (n : Int) (before after : String), (∀ c ∈ before.toList, isGap c = true) →
      (∀ c ∈ after.toList, isGap c = true) →
      css? (.text (before ++ toString n ++ after)) = some (toString n ++ "px") ∧
      (ofInteger? n).bind (fun text => css? (.text (before ++ text ++ after))) = css? (.int n) := by
  refine ⟨css?_bind_css?, fun v => css?_eq_none_iff, fun s => ⟨trim isGap s, ?_, ?_⟩, ?_⟩
  · rw [toList_trim]
    exact trimmedOf_trimChars isGap s.toList
  · rw [css?_text, textCss_eq]
  · intro n before after hbefore hafter
    have hform : css? (.text (before ++ toString n ++ after)) = some (toString n ++ "px") :=
      congrArg some (textCss_padded n hbefore hafter)
    refine ⟨hform, ?_⟩
    rw [css?, ofInteger?]
    split
    · exact hform
    · rfl

/-- A separator of files and a space that does not break a line are gaps as well. -/
theorem css_normalizes_padded :
    (∀ c ∈ "\t\u00a0".toList, isGap c = true) ∧ (∀ c ∈ "\x1c".toList, isGap c = true) ∧
      (ofInteger? (-98765432109876543210)).bind
          (fun text => css? (.text ("\t\u00a0" ++ text ++ "\x1c"))) =
        css? (.int (-98765432109876543210)) :=
  ⟨List.all_eq_true.mp (by decide), List.all_eq_true.mp (by decide),
    (css_normalizes.2.2.2 (-98765432109876543210) "\t\u00a0" "\x1c"
      (List.all_eq_true.mp (by decide)) (List.all_eq_true.mp (by decide))).2⟩

end Pixels
end MailTemplate
