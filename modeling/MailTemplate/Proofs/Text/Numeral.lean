import MailTemplate.Text.Numeral

/-!
# The grammar of numerals

A numeral is recognised from left to right, each run of digits as far as it goes. That is no loss,
since what may follow a run does not continue it.

* `Digits`, `Mantissa`, `ExponentPart`, `IsNumberName` and `Numeral`: the grammar;
* `exists_digits_of_digitRun` and `digitRun_append`: a run of digits is read to its end;
* `isExponentPart_iff`, `isDecimalNumeral_iff` and `isNumeral_iff`: exactly what the grammar generates
  is recognised;
* `Numeral.inAlphabet`: the characters of numerals.
-/

namespace MailTemplate.Text

/-! ### The grammar -/

/-- Digits of a class, with single underscores between some of them. -/
inductive Digits (isDigit : Char → Bool) : List Char → Prop
  | single {c : Char} (h : isDigit c = true) : Digits isDigit [c]
  | cons {c : Char} {cs : List Char} (h : isDigit c = true) (hcs : Digits isDigit cs) :
      Digits isDigit (c :: cs)
  | grouped {c : Char} {cs : List Char} (h : isDigit c = true) (hcs : Digits isDigit cs) :
      Digits isDigit (c :: '_' :: cs)

/-- Nothing, or one of the two signs. -/
def IsSign (cs : List Char) : Prop := cs = [] ∨ cs = ['+'] ∨ cs = ['-']

/-- Digits of any script, with an optional point before, among or after them. -/
inductive Mantissa : List Char → Prop
  | whole {whole : List Char} (hw : Digits isDecimalDigit whole) : Mantissa whole
  | pointed {whole : List Char} (hw : Digits isDecimalDigit whole) : Mantissa (whole ++ ['.'])
  | fraction {fraction : List Char} (hf : Digits isDecimalDigit fraction) :
      Mantissa ('.' :: fraction)
  | both {whole fraction : List Char} (hw : Digits isDecimalDigit whole)
      (hf : Digits isDecimalDigit fraction) : Mantissa (whole ++ '.' :: fraction)

/-- Nothing, or a letter and digits with an optional sign. -/
inductive ExponentPart : List Char → Prop
  | absent : ExponentPart []
  | power {e : Char} {sign digits : List Char} (he : e = 'e' ∨ e = 'E') (hsign : IsSign sign)
      (h : Digits isDecimalDigit digits) : ExponentPart (e :: (sign ++ digits))

/-- A name of what has no digits, in letters of any case. -/
def IsNumberName (name : List Char) : Prop :=
  name.map Char.toLower ∈ ["inf".toList, "infinity".toList, "nan".toList]

/-- The written forms of a number: an optional sign, then digits with an optional point and exponent,
or a name. -/
inductive Numeral : List Char → Prop
  | decimal {sign mantissa exponent : List Char} (hsign : IsSign sign) (hm : Mantissa mantissa)
      (he : ExponentPart exponent) : Numeral (sign ++ (mantissa ++ exponent))
  | named {sign name : List Char} (hsign : IsSign sign) (h : IsNumberName name) :
      Numeral (sign ++ name)

/-! ### Runs of digits -/

variable {isDigit : Char → Bool} {cs run rest digits : List Char}

theorem Digits.exists_cons (h : Digits isDigit cs) :
    ∃ c more, cs = c :: more ∧ isDigit c = true := by
  cases h with
  | single h | cons h | grouped h => exact ⟨_, _, rfl, h⟩

theorem moreDigits_of_digit {c : Char} (hc : isDigit c = true) (cs : List Char) :
    moreDigits isDigit (c :: cs) =
      (c :: (moreDigits isDigit cs).1, (moreDigits isDigit cs).2) := by
  conv => lhs; unfold moreDigits
  simp [hc]

theorem moreDigits_of_ne {c : Char} (hdigit : isDigit c = false) (hc : c ≠ '_') (cs : List Char) :
    moreDigits isDigit (c :: cs) = ([], c :: cs) := by
  unfold moreDigits
  simp [hdigit, hc]

/-- What is read after a first digit continues the run that this digit begins. -/
theorem exists_moreDigits (isDigit : Char → Bool) (cs : List Char) :
    ∃ more, cs = more ++ (moreDigits isDigit cs).2 ∧
      ∀ c, isDigit c = true → Digits isDigit (c :: more) := by
  fun_induction moreDigits isDigit cs with
  | case1 => exact ⟨[], rfl, fun _ => .single⟩
  | case2 d ds hd digits rest heq ih =>
    obtain ⟨more, hmore, hrun⟩ := ih
    rw [heq] at hmore
    exact ⟨d :: more, congrArg (d :: ·) hmore, fun c hc => .cons hc (hrun d hd)⟩
  | case3 d ds hd digits rest heq _ ih =>
    obtain ⟨more, hmore, hrun⟩ := ih
    rw [heq] at hmore
    exact ⟨'_' :: d :: more, congrArg ('_' :: d :: ·) hmore, fun c hc => .grouped hc (hrun d hd)⟩
  | case4 | case5 => exact ⟨[], rfl, fun _ => .single⟩

/-- The digits at the start of a text are a run. -/
theorem exists_digits_of_digitRun (h : digitRun isDigit cs = some (digits, rest)) :
    ∃ run, cs = run ++ rest ∧ Digits isDigit run := by
  cases cs with
  | nil => contradiction
  | cons c cs =>
    rw [digitRun] at h
    split at h
    · rename_i hc
      obtain ⟨more, hmore, hrun⟩ := exists_moreDigits isDigit cs
      obtain ⟨-, rfl⟩ := Prod.mk.inj (Option.some.inj h)
      exact ⟨c :: more, congrArg (c :: ·) hmore, hrun c hc⟩
    · contradiction

/-- A first digit is read like the further ones. -/
theorem moreDigits_of_digitRun (h : digitRun isDigit cs = some (digits, rest)) :
    moreDigits isDigit cs = (digits, rest) := by
  cases cs with
  | nil => contradiction
  | cons c cs =>
    by_cases hc : isDigit c = true
    · simpa [digitRun, moreDigits_of_digit, hc] using h
    · simp [digitRun, hc] at h

/-- An underscore is read before a digit. -/
theorem moreDigits_underscore (h : digitRun isDigit cs = some (digits, rest)) :
    (moreDigits isDigit ('_' :: cs)).2 = rest := by
  have hmore := moreDigits_of_digitRun h
  by_cases hunderscore : isDigit '_' = true
  · rw [moreDigits_of_digit hunderscore, hmore]
  · cases cs with
    | nil => contradiction
    | cons d ds =>
      by_cases hd : isDigit d = true
      · rw [moreDigits_of_digit hd] at hmore
        unfold moreDigits
        simpa [hunderscore, hd] using congrArg Prod.snd hmore
      · simp [digitRun, hd] at h

theorem digitRun_of_digit {c : Char} (hc : isDigit c = true) (cs : List Char) :
    digitRun isDigit (c :: cs) =
      some (c :: (moreDigits isDigit cs).1, (moreDigits isDigit cs).2) := by
  simp [digitRun, hc]

/-- A run is read to its end if what follows does not continue it. -/
theorem digitRun_append (h : Digits isDigit run) (hrest : (moreDigits isDigit rest).2 = rest) :
    ∃ digits, digitRun isDigit (run ++ rest) = some (digits, rest) := by
  induction h with
  | single hc =>
    rw [List.singleton_append, digitRun_of_digit hc, hrest]
    exact ⟨_, rfl⟩
  | cons hc _ ih =>
    obtain ⟨digits, hdigits⟩ := ih
    rw [List.cons_append, digitRun_of_digit hc, moreDigits_of_digitRun hdigits]
    exact ⟨_, rfl⟩
  | grouped hc _ ih =>
    obtain ⟨digits, hdigits⟩ := ih
    rw [List.cons_append, List.cons_append, digitRun_of_digit hc, moreDigits_underscore hdigits]
    exact ⟨_, rfl⟩

/-! ### Signs and exponents -/

theorem exists_sign (cs : List Char) : ∃ sign, IsSign sign ∧ cs = sign ++ dropSign cs := by
  unfold dropSign
  split
  · exact ⟨['+'], .inr (.inl rfl), rfl⟩
  · exact ⟨['-'], .inr (.inr rfl), rfl⟩
  · exact ⟨[], .inl rfl, rfl⟩

/-- A sign is dropped alone if what follows does not start with another one. -/
theorem dropSign_append {sign : List Char} (hsign : IsSign sign) {c : Char} (hplus : c ≠ '+')
    (hminus : c ≠ '-') (cs : List Char) : dropSign (sign ++ c :: cs) = c :: cs := by
  rcases hsign with rfl | rfl | rfl
  · simp [dropSign, hplus, hminus]
  · rfl
  · rfl

theorem ne_of_isDecimalDigit {c d : Char} (hc : isDecimalDigit c = true)
    (hd : isDecimalDigit d = false) : c ≠ d := by
  rintro rfl
  rw [hc] at hd
  contradiction

theorem Digits.dropSign_append {sign : List Char} (h : Digits isDecimalDigit run)
    (hsign : IsSign sign) : dropSign (sign ++ run) = run := by
  obtain ⟨c, more, rfl, hc⟩ := h.exists_cons
  exact Text.dropSign_append hsign (ne_of_isDecimalDigit hc (by decide))
    (ne_of_isDecimalDigit hc (by decide)) more

theorem isExponentPart_iff : isExponentPart cs = true ↔ ExponentPart cs := by
  constructor
  · intro h
    cases cs with
    | nil => exact .absent
    | cons e cs =>
      rw [isExponentPart, Bool.and_eq_true, Bool.or_eq_true, decide_eq_true_eq, decide_eq_true_eq,
        Option.any_eq_true] at h
      obtain ⟨he, ⟨digits, rest⟩, hrun, hrest⟩ := h
      obtain rfl : rest = [] := List.isEmpty_iff.mp hrest
      obtain ⟨run, hcs, hdigits⟩ := exists_digits_of_digitRun hrun
      obtain ⟨sign, hsign, hsplit⟩ := exists_sign cs
      rw [hsplit, hcs, List.append_nil]
      exact .power he hsign hdigits
  · intro h
    cases h with
    | absent => rfl
    | power he hsign h =>
      have hend : (moreDigits isDecimalDigit []).2 = [] := rfl
      obtain ⟨digits, hdigits⟩ := digitRun_append h hend
      rw [List.append_nil] at hdigits
      rw [isExponentPart, h.dropSign_append hsign, hdigits]
      simp [he]

/-- An exponent neither continues the digits before it nor starts with a point. -/
theorem ExponentPart.ends_run (h : ExponentPart cs) :
    digitRun isDecimalDigit cs = none ∧ (moreDigits isDecimalDigit cs).2 = cs ∧
      cs.head? ≠ some '.' := by
  cases h with
  | absent => exact ⟨rfl, rfl, by simp⟩
  | power he =>
    have hdigit : isDecimalDigit 'e' = false ∧ isDecimalDigit 'E' = false := by decide
    rcases he with rfl | rfl
    · exact ⟨by simp [digitRun, hdigit], by rw [moreDigits_of_ne hdigit.1 (by decide)], by simp⟩
    · exact ⟨by simp [digitRun, hdigit], by rw [moreDigits_of_ne hdigit.2 (by decide)], by simp⟩

/-! ### Mantissas -/

theorem isDecimalNumeral_of_head?_ne (h : digitRun isDecimalDigit cs = some (digits, rest))
    (hrest : rest.head? ≠ some '.') : isDecimalNumeral cs = isExponentPart rest := by
  unfold isDecimalNumeral
  rw [h]
  split
  · rename_i heq
    obtain ⟨-, rfl⟩ := Prod.mk.inj (Option.some.inj heq)
    simp at hrest
  · rename_i heq
    obtain ⟨-, rfl⟩ := Prod.mk.inj (Option.some.inj heq)
    rfl
  · contradiction

theorem isDecimalNumeral_of_point (h : digitRun isDecimalDigit cs = some (digits, '.' :: rest)) :
    isDecimalNumeral cs =
      isExponentPart (((digitRun isDecimalDigit rest).map (·.2)).getD rest) := by
  unfold isDecimalNumeral
  simp only [h]

theorem isDecimalNumeral_point (cs : List Char) :
    isDecimalNumeral ('.' :: cs) =
      (digitRun isDecimalDigit cs).any (isExponentPart ·.2) := by
  have hstop : digitRun isDecimalDigit ('.' :: cs) = none := by rw [digitRun, if_neg (by decide)]
  unfold isDecimalNumeral
  simp only [hstop]

/-- What may stand after the digits of a mantissa ends them, and the point of a mantissa does too. -/
theorem isDecimalNumeral_append {mantissa exponent : List Char} (hmantissa : Mantissa mantissa)
    (hexponent : ExponentPart exponent) : isDecimalNumeral (mantissa ++ exponent) = true := by
  obtain ⟨hnone, hmore, hhead⟩ := hexponent.ends_run
  have hexponent := isExponentPart_iff.mpr hexponent
  have hpoint (cs : List Char) : (moreDigits isDecimalDigit ('.' :: cs)).2 = '.' :: cs := by
    rw [moreDigits_of_ne (by decide) (by decide)]
  cases hmantissa with
  | whole hwhole =>
    obtain ⟨digits, hrun⟩ := digitRun_append hwhole hmore
    rw [isDecimalNumeral_of_head?_ne hrun hhead, hexponent]
  | pointed hwhole =>
    obtain ⟨digits, hrun⟩ := digitRun_append hwhole (hpoint exponent)
    rw [List.append_assoc, List.singleton_append, isDecimalNumeral_of_point hrun, hnone]
    exact hexponent
  | fraction hfraction =>
    obtain ⟨digits, hrun⟩ := digitRun_append hfraction hmore
    rw [List.cons_append, isDecimalNumeral_point, hrun]
    exact hexponent
  | @both _ fraction hwhole hfraction =>
    obtain ⟨digits, hrun⟩ := digitRun_append hwhole (hpoint (fraction ++ exponent))
    obtain ⟨digits', hrun'⟩ := digitRun_append hfraction hmore
    rw [List.append_assoc, List.cons_append, isDecimalNumeral_of_point hrun, hrun']
    exact hexponent

theorem exists_mantissa_of_isDecimalNumeral (h : isDecimalNumeral cs = true) :
    ∃ mantissa exponent, cs = mantissa ++ exponent ∧ Mantissa mantissa ∧
      ExponentPart exponent := by
  unfold isDecimalNumeral at h
  split at h
  · -- digits and a point, which more digits may follow
    rename_i rest hrun
    obtain ⟨whole, rfl, hwhole⟩ := exists_digits_of_digitRun hrun
    cases hmore : digitRun isDecimalDigit rest with
    | some p =>
      obtain ⟨digits, exponent⟩ := p
      obtain ⟨fraction, rfl, hfraction⟩ := exists_digits_of_digitRun hmore
      rw [hmore] at h
      exact ⟨whole ++ '.' :: fraction, exponent, by simp, .both hwhole hfraction,
        isExponentPart_iff.mp h⟩
    | none =>
      rw [hmore] at h
      exact ⟨whole ++ ['.'], rest, by simp, .pointed hwhole, isExponentPart_iff.mp h⟩
  · rename_i rest hrun
    obtain ⟨whole, rfl, hwhole⟩ := exists_digits_of_digitRun hrun
    exact ⟨whole, _, rfl, .whole hwhole, isExponentPart_iff.mp h⟩
  · split at h
    · rename_i rest _
      obtain ⟨⟨digits, exponent⟩, hrun, hexponent⟩ := (Option.any_eq_true _ _).mp h
      obtain ⟨fraction, rfl, hfraction⟩ := exists_digits_of_digitRun hrun
      exact ⟨'.' :: fraction, exponent, rfl, .fraction hfraction, isExponentPart_iff.mp hexponent⟩
    · contradiction

theorem isDecimalNumeral_iff : isDecimalNumeral cs = true ↔
    ∃ mantissa exponent, cs = mantissa ++ exponent ∧ Mantissa mantissa ∧
      ExponentPart exponent := by
  refine ⟨exists_mantissa_of_isDecimalNumeral, ?_⟩
  rintro ⟨mantissa, exponent, rfl, hmantissa, hexponent⟩
  exact isDecimalNumeral_append hmantissa hexponent

/-! ### Numerals -/

theorem contains_namedNumbers :
    namedNumbers.contains (String.ofList (cs.map Char.toLower)) = true ↔ IsNumberName cs := by
  simp [namedNumbers, IsNumberName, ← String.toList_inj]

theorem Mantissa.dropSign_append {sign mantissa : List Char} (h : Mantissa mantissa)
    (hsign : IsSign sign) (rest : List Char) :
    dropSign (sign ++ (mantissa ++ rest)) = mantissa ++ rest := by
  obtain ⟨c, more, rfl, hc⟩ : ∃ c more, mantissa = c :: more ∧
      (isDecimalDigit c = true ∨ c = '.') := by
    cases h with
    | whole hw | pointed hw | both hw =>
      obtain ⟨c, more, rfl, hc⟩ := hw.exists_cons
      exact ⟨c, _, rfl, .inl hc⟩
    | fraction => exact ⟨'.', _, rfl, .inr rfl⟩
  have hne : c ≠ '+' ∧ c ≠ '-' := by
    rcases hc with hdigit | rfl
    · exact ⟨ne_of_isDecimalDigit hdigit (by decide), ne_of_isDecimalDigit hdigit (by decide)⟩
    · decide
  exact Text.dropSign_append hsign hne.1 hne.2 _

theorem IsNumberName.dropSign_append {sign name : List Char} (h : IsNumberName name)
    (hsign : IsSign sign) : dropSign (sign ++ name) = name := by
  cases name with
  | nil => simp [IsNumberName] at h
  | cons c name =>
    have hc : c.toLower = 'i' ∨ c.toLower = 'n' := by
      simp only [IsNumberName, List.map_cons] at h
      have hheads : ∀ name ∈ ["inf".toList, "infinity".toList, "nan".toList],
          name.head? = some 'i' ∨ name.head? = some 'n' := by decide
      simpa using hheads _ h
    refine Text.dropSign_append hsign ?_ ?_ name
    · rintro rfl
      revert hc
      decide
    · rintro rfl
      revert hc
      decide

/-- A text is recognised as a numeral if the grammar generates it. -/
theorem isNumeral_iff : isNumeral cs = true ↔ Numeral cs := by
  rw [isNumeral, Bool.or_eq_true, isDecimalNumeral_iff, contains_namedNumbers]
  constructor
  · obtain ⟨sign, hsign, hsplit⟩ := exists_sign cs
    rintro (⟨mantissa, exponent, hbody, hmantissa, hexponent⟩ | hname)
    · rw [hsplit, hbody]
      exact .decimal hsign hmantissa hexponent
    · rw [hsplit]
      exact .named hsign hname
  · intro h
    cases h with
    | decimal hsign hmantissa hexponent =>
      exact .inl ⟨_, _, hmantissa.dropSign_append hsign _, hmantissa, hexponent⟩
    | named hsign hname => exact .inr ((hname.dropSign_append hsign).symm ▸ hname)

instance : DecidablePred Numeral := fun _ => decidable_of_iff _ isNumeral_iff

/-! ### Their characters -/

/-- The characters of numerals: digits, signs, points and underscores, and the letters of names and
exponents. -/
def InAlphabet (c : Char) : Prop :=
  isDecimalDigit c = true ∨ c ∈ "+-._".toList ∨ c.toLower ∈ "aefinty".toList

theorem Digits.inAlphabet (h : Digits isDecimalDigit run) : ∀ c ∈ run, InAlphabet c := by
  have hunderscore : InAlphabet '_' := .inr (.inl (by decide))
  induction h with
  | single hc => exact List.forall_mem_singleton.mpr (.inl hc)
  | cons hc _ ih => exact List.forall_mem_cons.mpr ⟨.inl hc, ih⟩
  | grouped hc _ ih =>
    exact List.forall_mem_cons.mpr ⟨.inl hc, List.forall_mem_cons.mpr ⟨hunderscore, ih⟩⟩

theorem IsSign.inAlphabet (h : IsSign cs) : ∀ c ∈ cs, InAlphabet c := by
  rcases h with rfl | rfl | rfl
  · exact List.forall_mem_nil _
  · exact List.forall_mem_singleton.mpr (.inr (.inl (by decide)))
  · exact List.forall_mem_singleton.mpr (.inr (.inl (by decide)))

theorem Mantissa.inAlphabet (h : Mantissa cs) : ∀ c ∈ cs, InAlphabet c := by
  have hpoint : InAlphabet '.' := .inr (.inl (by decide))
  cases h with
  | whole hw => exact hw.inAlphabet
  | pointed hw =>
    exact List.forall_mem_append.mpr ⟨hw.inAlphabet, List.forall_mem_singleton.mpr hpoint⟩
  | fraction hf => exact List.forall_mem_cons.mpr ⟨hpoint, hf.inAlphabet⟩
  | both hw hf =>
    exact List.forall_mem_append.mpr
      ⟨hw.inAlphabet, List.forall_mem_cons.mpr ⟨hpoint, hf.inAlphabet⟩⟩

theorem ExponentPart.inAlphabet (h : ExponentPart cs) : ∀ c ∈ cs, InAlphabet c := by
  cases h with
  | absent => exact List.forall_mem_nil _
  | power he hsign hd =>
    refine List.forall_mem_cons.mpr ⟨.inr (.inr ?_),
      List.forall_mem_append.mpr ⟨hsign.inAlphabet, hd.inAlphabet⟩⟩
    rcases he with rfl | rfl <;> decide

theorem Numeral.inAlphabet (h : Numeral cs) : ∀ c ∈ cs, InAlphabet c := by
  cases h with
  | decimal hsign hm he =>
    exact List.forall_mem_append.mpr
      ⟨hsign.inAlphabet, List.forall_mem_append.mpr ⟨hm.inAlphabet, he.inAlphabet⟩⟩
  | named hsign hname =>
    refine List.forall_mem_append.mpr ⟨hsign.inAlphabet, fun c hc => .inr (.inr ?_)⟩
    -- the names are in lower case, and so is each letter of them
    have hletters : ∀ name ∈ ["inf".toList, "infinity".toList, "nan".toList],
        name.all ("aefinty".toList.contains ·) = true := List.all_eq_true.mp (by decide)
    exact List.contains_iff_mem.mp
      (List.all_eq_true.mp (hletters _ hname) _ (List.mem_map_of_mem hc))

end MailTemplate.Text
