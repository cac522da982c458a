import MailTemplate.Proofs.Placeholder.Occurrences

/-!
# The names in a text

Which names are found in a text, and in which order.

* `isName_iff`: the characters of names, one by one;
* `Text.FirstAt`: where a part stands in a text for the first time;
* `pairwise_eraseDups_occurrences`: names are listed by their first occurrence;
* `occurrences_join_written`: the written forms of names, one after the other;
* `names_exact`: the names of a text are those of its placeholders, once each and in this order.
-/

namespace MailTemplate

/-- A part stands at a position of a text, and at none before it. -/
def Text.FirstAt (part text : List Char) (k : Nat) : Prop :=
  part <+: text.drop k ∧ ∀ j < k, ¬ part <+: text.drop j

namespace Placeholder

open Text

variable {part cs : List Char} {name : String} {k : Nat}

/-! ### Characters of names -/

theorem isWordChar_iff {c : Char} : isWordChar c = true ↔
    ('A' ≤ c ∧ c ≤ 'Z') ∨ ('a' ≤ c ∧ c ≤ 'z') ∨ ('0' ≤ c ∧ c ≤ '9') ∨ c = '_' := by
  have hclasses : isWordChar c = (((decide ('A' ≤ c ∧ c ≤ 'Z') ||
      decide ('a' ≤ c) && decide (c ≤ 'z')) || decide ('0' ≤ c) && decide (c ≤ '9')) ||
      decide (c = '_')) := rfl
  rw [hclasses]
  simp only [Bool.or_eq_true, Bool.and_eq_true, decide_eq_true_eq, or_assoc]

theorem isName_iff : IsName name.toList ↔ name ≠ "" ∧ ∀ c ∈ name.toList,
    ('A' ≤ c ∧ c ≤ 'Z') ∨ ('a' ≤ c ∧ c ≤ 'z') ∨ ('0' ≤ c ∧ c ≤ '9') ∨ c = '_' := by
  simp only [IsName, isWordChar_iff, ne_eq, String.toList_eq_nil_iff]

/-! ### First occurrences -/

theorem firstAt_zero (h : part <+: cs) : FirstAt part cs 0 :=
  ⟨h, fun j hj => absurd hj (Nat.not_lt_zero j)⟩

theorem firstAt_succ {c : Char} (h : FirstAt part cs k) (hstart : ¬ part <+: c :: cs) :
    FirstAt part (c :: cs) (k + 1) := by
  refine ⟨h.1, fun j hj => ?_⟩
  cases j with
  | zero => exact hstart
  | succ j => exact h.2 j (by omega)

/-- A part that stands anywhere in a text stands somewhere for the first time. -/
theorem exists_firstAt (h : part <:+: cs) : ∃ k, FirstAt part cs k := by
  induction cs with
  | nil => exact ⟨0, firstAt_zero (List.infix_nil.mp h ▸ List.prefix_rfl)⟩
  | cons c cs ih =>
    by_cases hstart : part <+: c :: cs
    · exact ⟨0, firstAt_zero hstart⟩
    · obtain hpre | hlater := List.infix_cons_iff.mp h
      · exact absurd hpre hstart
      · obtain ⟨k, hk⟩ := ih hlater
        exact ⟨k + 1, firstAt_succ hk hstart⟩

/-- The placeholder of one name stands in a text before any of another name. -/
def ComesBefore (cs : List Char) (m n : String) : Prop :=
  ∃ j k, FirstAt (written m).toList cs j ∧ FirstAt (written n).toList cs k ∧ j < k

theorem ComesBefore.cons {c : Char} {m n : String} (h : ComesBefore cs m n)
    (hm : ¬ (written m).toList <+: c :: cs) (hn : ¬ (written n).toList <+: c :: cs) :
    ComesBefore (c :: cs) m n := by
  obtain ⟨j, k, hj, hk, hjk⟩ := h
  exact ⟨j + 1, k + 1, firstAt_succ hj hm, firstAt_succ hk hn, Nat.succ_lt_succ hjk⟩

/-- Names are listed by their first occurrence. At each position at most one placeholder starts, so
the induction is on the text: a name that starts here comes first, and all others later. -/
theorem pairwise_eraseDups_occurrences (cs : List Char) :
    (occurrences cs).eraseDups.Pairwise (ComesBefore cs) := by
  induction cs with
  | nil => exact List.Pairwise.nil
  | cons c cs ih =>
    have hname : ∀ n ∈ (occurrences cs).eraseDups,
        IsName n.toList ∧ (written n).toList <:+: cs := fun n hn =>
      mem_occurrences_iff.mp (List.mem_eraseDups.mp hn)
    cases hhere : nameAt? (c :: cs) with
    | none =>
      have hstart : ∀ n ∈ (occurrences cs).eraseDups, ¬ (written n).toList <+: c :: cs := by
        intro n hn hpre
        rw [nameAt?_eq_some_iff.mpr ⟨(hname n hn).1, hpre⟩] at hhere
        contradiction
      rw [occurrences, hhere]
      exact ih.imp_of_mem fun hm hn h => h.cons (hstart _ hm) (hstart _ hn)
    | some name =>
      have hstart : ∀ n ∈ (occurrences cs).eraseDups.filter (!· == name),
          n ∈ (occurrences cs).eraseDups ∧ ¬ (written n).toList <+: c :: cs := by
        intro n hn
        obtain ⟨hn, hne⟩ := List.mem_filter.mp hn
        refine ⟨hn, fun hpre => ?_⟩
        rw [nameAt?_eq_some_iff.mpr ⟨(hname n hn).1, hpre⟩, Option.some.injEq] at hhere
        simp [hhere] at hne
      rw [occurrences, hhere, Option.toList_some, List.singleton_append, List.eraseDups_cons,
        eraseDups_filter, List.pairwise_cons]
      constructor
      · intro n hn
        obtain ⟨hmem, hlater⟩ := hstart n hn
        obtain ⟨k, hk⟩ := exists_firstAt (hname n hmem).2
        exact ⟨0, k + 1, firstAt_zero (nameAt?_eq_some_iff.mp hhere).2, firstAt_succ hk hlater,
          Nat.succ_pos k⟩
      · exact (ih.filter _).imp_of_mem fun hm hn h => h.cons (hstart _ hm).2 (hstart _ hn).2

/-! ### Names written down -/

/-- Written forms one after the other have no placeholders but their own. -/
theorem occurrences_join_written {names : List String} (h : ∀ n ∈ names, IsName n.toList) :
    occurrences (String.join (names.map written)).toList = names := by
  induction names with
  | nil => rfl
  | cons n names ih =>
    rw [List.forall_mem_cons] at h
    rw [List.map_cons, String.join_cons, String.toList_append, occurrences_written_append h.1,
      ih h.2]

/-- The names of a text are those that a scan from the left finds, each once. They are the texts of
letters, digits and underscores whose written form the text contains, whatever stands around it, in
the order of their first occurrences. Written down one after the other they are found again. -/
theorem names_exact (text : String) :
    names text = (scan text.toList).eraseDups ∧
    (names text).Nodup ∧
    (∀ name, name ∈ names text ↔
      (name ≠ "" ∧ ∀ c ∈ name.toList,
        ('A' ≤ c ∧ c ≤ 'Z') ∨ ('a' ≤ c ∧ c ≤ 'z') ∨ ('0' ≤ c ∧ c ≤ '9') ∨ c = '_') ∧
      (written name).toList <:+: text.toList) ∧
    (names text).Pairwise (ComesBefore text.toList) ∧
    names (String.join ((names text).map written)) = names text := by
  have hmem : ∀ name, name ∈ names text ↔
      IsName name.toList ∧ (written name).toList <:+: text.toList := fun name =>
    List.mem_eraseDups.trans mem_occurrences_iff
  refine ⟨by rw [scan_eq_occurrences, names], nodup_eraseDups _, ?_,
    pairwise_eraseDups_occurrences _, ?_⟩
  · simpa only [isName_iff] using hmem
  · have hjoin : occurrences (String.join ((names text).map written)).toList = names text :=
      occurrences_join_written fun name hname => ((hmem name).mp hname).1
    rw [names, hjoin, names, eraseDups_eraseDups]

/-- Braces around a placeholder, a repetition, and a text that is no name. -/
example : names ("\x7b" ++ written "b" ++ "\x7d" ++ written "a" ++ written "b" ++ written "-") =
    ["b", "a"] := by decide

end Placeholder
end MailTemplate
