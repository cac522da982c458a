import MailTemplate.IdSource

/-!
# Fresh ids are fresh

* `hexValue_toDigits` and `counterToken_injective`: counted tokens differ from each other;
* `IdSource.skip` and `IdSource.nth`: a source after some draws, and the id that it gives then;
* `exists_nth_not_mem`: past the script, more draws than there are taken ids hit one that is free;
* `fresh_spec`: the search for a fresh id ends at the first drawn id that is not taken.
-/

namespace MailTemplate.IdSource

/-! ### Counted tokens -/

/-- The value of a hexadecimal digit. -/
def hexDigit (c : Char) : Nat := if c.isDigit then c.toNat - 48 else c.toNat - 87

/-- The number that hexadecimal digits write. -/
def hexValue (cs : List Char) : Nat := cs.foldl (fun n c => 16 * n + hexDigit c) 0

theorem hexDigit_digitChar : ∀ d < 16, hexDigit (Nat.digitChar d) = d := by decide

theorem hexValue_append_singleton (cs : List Char) (c : Char) :
    hexValue (cs ++ [c]) = 16 * hexValue cs + hexDigit c := by
  rw [hexValue, List.foldl_append]
  rfl

theorem hexValue_toDigits (n : Nat) : hexValue (Nat.toDigits 16 n) = n := by
  induction n using Nat.strongRecOn with
  | ind n ih =>
    rw [Nat.toDigits_eq_if (by decide)]
    split
    · -- a single digit
      rename_i h
      simp only [hexValue, List.foldl_cons, List.foldl_nil, hexDigit_digitChar n h]
      omega
    · have hlast := hexDigit_digitChar (n % 16) (Nat.mod_lt n (by decide))
      rw [hexValue_append_singleton, ih (n / 16) (by omega), hlast]
      omega

theorem hexValue_zeros (k : Nat) (cs : List Char) :
    hexValue (List.replicate k '0' ++ cs) = hexValue cs := by
  induction k with
  | zero => rfl
  | succ k ih => exact ih

/-- Zeros in front do not make two numbers one token. -/
theorem counterToken_injective {m n : Nat} (h : counterToken m = counterToken n) : m = n := by
  have hvalue := congrArg (fun token => hexValue (String.toList token)) h
  simpa only [counterToken, String.toList_ofList, hexValue_zeros, hexValue_toDigits] using hvalue

/-! ### The ids to come -/

/-- A source after a number of draws. -/
def skip (k : Nat) (ids : IdSource) : IdSource := ⟨ids.script.drop k, ids.drawn + k⟩

/-- The id that a source gives after a number of draws. -/
def nth (kind : String) (ids : IdSource) (k : Nat) : String := ((ids.skip k).draw kind).1

theorem draw_snd (kind : String) (ids : IdSource) : (ids.draw kind).2 = ids.skip 1 := by
  obtain ⟨script, drawn⟩ := ids
  cases script <;> rfl

theorem draw_eq (kind : String) (ids : IdSource) :
    ids.draw kind = (ids.nth kind 0, ids.skip 1) := by
  rw [← draw_snd kind ids]
  rfl

theorem skip_skip (j k : Nat) (ids : IdSource) : (ids.skip j).skip k = ids.skip (j + k) := by
  simp only [skip, List.drop_drop, Nat.add_assoc]

theorem nth_skip (kind : String) (ids : IdSource) (j k : Nat) :
    (ids.skip j).nth kind k = ids.nth kind (j + k) := by
  rw [nth, skip_skip, nth]

theorem nth_ne_empty (kind : String) (ids : IdSource) (k : Nat) : ids.nth kind k ≠ "" := by
  intro h
  have hlength := congrArg String.length h
  simp only [nth, draw, String.length_append] at hlength
  have hhyphen : "-".length = 1 := by decide
  rw [hhyphen, String.length_empty] at hlength
  omega

theorem draw_ne_empty (kind : String) (ids : IdSource) : (ids.draw kind).1 ≠ "" :=
  nth_ne_empty kind ids 0

/-- Past the script the ids are counted. -/
theorem nth_of_script_le (kind : String) (ids : IdSource) {k : Nat}
    (h : ids.script.length ≤ k) :
    ids.nth kind k = kind ++ "-" ++ counterToken (ids.drawn + k + 1) := by
  simp only [nth, skip, List.drop_eq_nil_of_le h, draw, token]

theorem nth_injective (kind : String) (ids : IdSource) {j k : Nat}
    (hj : ids.script.length ≤ j) (hk : ids.script.length ≤ k)
    (h : ids.nth kind j = ids.nth kind k) : j = k := by
  rw [nth_of_script_le kind ids hj, nth_of_script_le kind ids hk] at h
  have := counterToken_injective (String.append_right_inj _ |>.mp h)
  omega

/-- Counted ids are more than the taken ones can cover. -/
theorem exists_nth_not_mem (kind : String) (taken : List String) (ids : IdSource) :
    ∃ k ≤ ids.script.length + taken.length, ids.nth kind k ∉ taken := by
  apply Classical.byContradiction
  intro hnone
  have hall : ∀ k ≤ ids.script.length + taken.length, ids.nth kind k ∈ taken := by
    intro k hk
    apply Classical.byContradiction
    exact fun hmem => hnone ⟨k, hk, hmem⟩
  -- one counted id more than there are taken ones, and all of them different
  let counted := (List.range (taken.length + 1)).map fun j =>
    ids.nth kind (ids.script.length + j)
  have hnodup : counted.Nodup := by
    refine List.pairwise_map.mpr (List.nodup_range.imp fun {i j} hij heq => hij ?_)
    have := nth_injective kind ids (Nat.le_add_right _ i) (Nat.le_add_right _ j) heq
    omega
  have hsubset : counted ⊆ taken := by
    intro id hid
    obtain ⟨j, hj, rfl⟩ := List.mem_map.mp hid
    rw [List.mem_range] at hj
    exact hall _ (by omega)
  have hle := hnodup.length_le_of_subset hsubset
  simp only [counted, List.length_map, List.length_range] at hle
  omega

/-! ### The search -/

theorem drawUntaken_spec (kind : String) (taken : List String) (n : Nat) (ids : IdSource)
    (h : ∃ k ≤ n, ids.nth kind k ∉ taken) :
    ∃ k ≤ n, (∀ j < k, ids.nth kind j ∈ taken) ∧ ids.nth kind k ∉ taken ∧
      drawUntaken kind taken n ids = (ids.nth kind k, ids.skip (k + 1)) := by
  induction n generalizing ids with
  | zero =>
    obtain ⟨k, hk, hfree⟩ := h
    obtain rfl : k = 0 := by omega
    exact ⟨0, Nat.le_refl 0, fun j hj => absurd hj (Nat.not_lt_zero j), hfree, draw_eq kind ids⟩
  | succ n ih =>
    by_cases hfirst : ids.nth kind 0 ∈ taken
    · obtain ⟨k, hk, hfree⟩ := h
      have hpos : k ≠ 0 := by
        rintro rfl
        exact hfree hfirst
      obtain ⟨k, rfl⟩ := Nat.exists_eq_succ_of_ne_zero hpos
      -- the first id is taken, so the free one is among those after it
      have hlater : ∃ i ≤ n, (ids.skip 1).nth kind i ∉ taken :=
        ⟨k, by omega, by rwa [nth_skip, Nat.add_comm 1 k]⟩
      obtain ⟨i, hi, hbefore, hat, heq⟩ := ih (ids.skip 1) hlater
      refine ⟨i + 1, by omega, fun j hj => ?_, ?_, ?_⟩
      · cases j with
        | zero => exact hfirst
        | succ j =>
          have := hbefore j (by omega)
          rwa [nth_skip, Nat.add_comm 1 j] at this
      · rwa [nth_skip, Nat.add_comm 1 i] at hat
      · rw [drawUntaken, draw_eq]
        simp only [List.contains_eq_mem, hfirst, decide_true, ↓reduceIte]
        rw [heq, nth_skip, skip_skip, Nat.add_comm 1 i, Nat.add_comm 1 (i + 1)]
    · refine ⟨0, Nat.zero_le _, fun j hj => absurd hj (Nat.not_lt_zero j), hfirst, ?_⟩
      rw [drawUntaken, draw_eq]
      simp only [List.contains_eq_mem, hfirst, decide_false, Bool.false_eq_true, ↓reduceIte,
        Nat.zero_add]

/-- The search for a fresh id takes the first drawn id that is not taken, and it needs no more
draws than one for each text of the script, one for each taken id and one more. -/
theorem fresh_spec (kind : String) (taken : List String) (ids : IdSource) :
    ∃ k ≤ ids.script.length + taken.length, (∀ j < k, ids.nth kind j ∈ taken) ∧
      ids.nth kind k ∉ taken ∧ ids.fresh kind taken = (ids.nth kind k, ids.skip (k + 1)) :=
  drawUntaken_spec kind taken _ ids (exists_nth_not_mem kind taken ids)

theorem fresh_not_mem (kind : String) (taken : List String) (ids : IdSource) :
    (ids.fresh kind taken).1 ∉ taken := by
  obtain ⟨k, -, -, hfree, heq⟩ := fresh_spec kind taken ids
  rwa [heq]

theorem fresh_ne_empty (kind : String) (taken : List String) (ids : IdSource) :
    (ids.fresh kind taken).1 ≠ "" := by
  obtain ⟨k, -, -, -, heq⟩ := fresh_spec kind taken ids
  rw [heq]
  exact nth_ne_empty kind ids k

/-- A first draw that is free is the only one. -/
theorem fresh_eq_draw {kind : String} {taken : List String} {ids : IdSource}
    (h : (ids.draw kind).1 ∉ taken) : ids.fresh kind taken = ids.draw kind := by
  obtain ⟨k, -, hbefore, -, heq⟩ := fresh_spec kind taken ids
  rw [draw_eq] at h ⊢
  cases k with
  | zero => exact heq
  | succ k => exact absurd (hbefore 0 (Nat.succ_pos k)) h

end MailTemplate.IdSource
