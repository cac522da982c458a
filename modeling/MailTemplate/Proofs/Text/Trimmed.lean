import MailTemplate.Text.Blank

/-!
# Trimmed texts

* `Text.Trimmed`: texts with no character of a class at either end;
* `trimChars_infix` and `trimmed_trimChars`: trimming takes out a part of a text, which is trimmed;
* `Trimmed.infix_trimChars`: all trimmed parts of a text are parts of this one;
* `trim_trim`: nothing is left to be trimmed;
* `TrimmedOf`: a text is cut into what is trimmed and what is left in one way.
-/

namespace MailTemplate.Text

variable {p : Char → Bool} {cs : List Char}

/-- Texts with no character of a class at either end. -/
structure Trimmed (p : Char → Bool) (cs : List Char) : Prop where
  head : ∀ c, cs.head? = some c → p c = false
  last : ∀ c, cs.getLast? = some c → p c = false

/-- What is left after the front has been trimmed does not start with a character of the class. -/
theorem head?_dropWhile {c : Char} (h : (cs.dropWhile p).head? = some c) : p c = false := by
  have hnot := List.head?_dropWhile_not p cs
  rw [h] at hnot
  simpa using hnot

theorem trimChars_prefix_dropWhile (p : Char → Bool) (cs : List Char) :
    trimChars p cs <+: cs.dropWhile p := by
  rw [trimChars, ← List.reverse_suffix, List.reverse_reverse]
  exact List.dropWhile_suffix p

theorem trimChars_infix (p : Char → Bool) (cs : List Char) : trimChars p cs <:+: cs :=
  (trimChars_prefix_dropWhile p cs).isInfix.trans (List.dropWhile_suffix p).isInfix

/-- The end is trimmed last, which does not change the front unless nothing is left. -/
theorem trimmed_trimChars (p : Char → Bool) (cs : List Char) : Trimmed p (trimChars p cs) where
  head := by
    intro c hc
    obtain ⟨rest, hrest⟩ := trimChars_prefix_dropWhile p cs
    have hfront : (cs.dropWhile p).head? = some c := by
      rw [← hrest, List.head?_append, hc, Option.some_or]
    exact head?_dropWhile hfront
  last := by
    intro c hc
    rw [trimChars, List.getLast?_reverse] at hc
    exact head?_dropWhile hc

/-- A part that does not start with a character of the class is not touched at the front. -/
theorem infix_dropWhile {part : List Char} (h : part <:+: cs)
    (hhead : ∀ c, part.head? = some c → p c = false) : part <:+: cs.dropWhile p := by
  induction cs with
  | nil => exact h
  | cons c cs ih =>
    by_cases hc : p c = true
    · rw [List.dropWhile_cons_of_pos hc]
      rcases List.infix_cons_iff.mp h with hstart | hlater
      · cases part with
        | nil => exact List.nil_infix
        | cons a part =>
          obtain ⟨rfl, -⟩ := List.cons_prefix_cons.mp hstart
          rw [hhead a rfl] at hc
          contradiction
      · exact ih hlater
    · rwa [List.dropWhile_cons_of_neg hc]

/-- The two ends are trimmed alike, one of them in reverse. -/
theorem Trimmed.infix_trimChars {part : List Char} (h : Trimmed p part) (hpart : part <:+: cs) :
    part <:+: trimChars p cs := by
  have hfront := infix_dropWhile hpart h.head
  rw [trimChars, ← List.reverse_infix, List.reverse_reverse]
  refine infix_dropWhile (List.reverse_infix.mpr hfront) fun c hc => h.last c ?_
  rwa [List.head?_reverse] at hc

/-- A trimmed text is the largest trimmed part of itself. -/
theorem Trimmed.trimChars_eq (h : Trimmed p cs) : trimChars p cs = cs := by
  have hpart : trimChars p cs <:+: cs := trimChars_infix p cs
  exact hpart.eq_of_length_le (h.infix_trimChars List.infix_rfl).length_le

@[simp] theorem trim_trim (p : Char → Bool) (s : String) : trim p (trim p s) = trim p s := by
  rw [trim, toList_trim, (trimmed_trimChars p s.toList).trimChars_eq, trim]

/-- A text without a part at either end that consists of characters of a class, and no more of
them. -/
structure TrimmedOf (p : Char → Bool) (cs body : List Char) : Prop where
  trimmed : Trimmed p body
  ends : ∃ before after, cs = before ++ body ++ after ∧
    (∀ c ∈ before, p c = true) ∧ ∀ c ∈ after, p c = true

theorem trimmedOf_trimChars (p : Char → Bool) (cs : List Char) :
    TrimmedOf p cs (trimChars p cs) where
  trimmed := trimmed_trimChars p cs
  ends := by
    have hbefore : (cs.takeWhile p).all p = true := List.all_takeWhile
    have hafter : ((cs.dropWhile p).reverse.takeWhile p).all p = true := List.all_takeWhile
    refine ⟨cs.takeWhile p, ((cs.dropWhile p).reverse.takeWhile p).reverse, ?_,
      List.all_eq_true.mp hbefore, fun c hc => ?_⟩
    · rw [trimChars, List.append_assoc, ← List.reverse_append, List.takeWhile_append_dropWhile,
        List.reverse_reverse, List.takeWhile_append_dropWhile]
    · exact List.all_eq_true.mp hafter c (List.mem_reverse.mp hc)

/-- What does not start with a character of the class is left when the front is trimmed. -/
theorem dropWhile_append_of_head {before rest : List Char} (hbefore : ∀ c ∈ before, p c = true)
    (hrest : ∀ c, rest.head? = some c → p c = false) : (before ++ rest).dropWhile p = rest := by
  rw [List.dropWhile_append_of_pos hbefore]
  cases rest with
  | nil => rfl
  | cons c rest => exact List.dropWhile_cons_of_neg (by simp [hrest c rfl])

theorem TrimmedOf.trimChars_eq {body : List Char} (h : TrimmedOf p cs body) :
    trimChars p cs = body := by
  obtain ⟨before, after, rfl, hbefore, hafter⟩ := h.ends
  cases body with
  | nil =>
    have hall : ∀ c ∈ before ++ after, p c = true :=
      List.forall_mem_append.mpr ⟨hbefore, hafter⟩
    have hempty : (before ++ after ++ []).dropWhile p = [] :=
      dropWhile_append_of_head hall (by simp)
    rw [List.append_nil] at hempty
    rw [trimChars, List.append_nil, hempty]
    rfl
  | cons c body =>
    have hfront : (before ++ (c :: body ++ after)).dropWhile p = c :: body ++ after :=
      dropWhile_append_of_head hbefore h.trimmed.head
    have hback : (after.reverse ++ (c :: body).reverse).dropWhile p = (c :: body).reverse := by
      refine dropWhile_append_of_head (fun a ha => hafter a (List.mem_reverse.mp ha)) fun a ha => ?_
      rw [List.head?_reverse] at ha
      exact h.trimmed.last a ha
    rw [trimChars, List.append_assoc, hfront, List.reverse_append, hback, List.reverse_reverse]

end MailTemplate.Text
