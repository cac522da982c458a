import MailTemplate.Placeholder

/-!
# Where placeholders stand in a text

* `Placeholder.IsName` and `nameAt?_eq_some_iff`: which texts start with a placeholder;
* `Placeholder.Straddles` and `occurrences_append`: the placeholders of two texts side by side are
  those of each, unless one straddles the seam;
* `mem_occurrences_iff`: the placeholders of a text are those whose written form it contains;
* `length_occurrences_lt_of_straddles`: one that does is an additional one;
* `Placeholder.isWall`, `occurrences_wall` and `occurrences_intercalate`: texts that no placeholder
  can straddle;
* `Placeholder.scan` and `scan_eq_occurrences`: a scan from the left that goes on behind each
  placeholder it finds misses none;
* `eraseDups_flatMap_congr`: first occurrences, taken part by part.
-/

namespace MailTemplate.Placeholder

/-! ### Written forms -/

/-- The texts that can be names: word characters, at least one. -/
def IsName (cs : List Char) : Prop := cs ≠ [] ∧ ∀ c ∈ cs, isWordChar c = true

@[simp] theorem toList_written (name : String) :
    (written name).toList = '\x7b' :: '\x7b' :: (name.toList ++ ['\x7d', '\x7d']) := by
  simp [written]

theorem opening_not_word : isWordChar '\x7b' = false := by decide

theorem IsName.opening_not_mem {cs : List Char} (h : IsName cs) : '\x7b' ∉ cs := fun hm => by
  have := h.2 _ hm
  rw [opening_not_word] at this
  contradiction

/-- A placeholder stands at the start of a text exactly if the text starts with its written form. -/
theorem nameAt?_eq_some_iff {cs : List Char} {name : String} :
    nameAt? cs = some name ↔ IsName name.toList ∧ (written name).toList <+: cs := by
  constructor
  · intro h
    unfold nameAt? at h
    split at h
    · rename_i t
      simp only at h
      split at h
      · rename_i rest hrest
        split at h
        · contradiction
        · rename_i hne
          obtain rfl := Option.some.inj h
          -- what is taken and what is left make up the text again
          have hsplit := List.takeWhile_append_dropWhile (p := isWordChar) (l := t)
          rw [hrest] at hsplit
          refine ⟨⟨by simpa using hne, fun c hc => ?_⟩, rest, ?_⟩
          · rw [String.toList_ofList] at hc
            exact List.all_eq_true.mp List.all_takeWhile c hc
          · rw [toList_written, String.toList_ofList]
            simpa using hsplit
      · contradiction
    · contradiction
  · rintro ⟨hname, rest, rfl⟩
    have hrun : (name.toList ++ '\x7d' :: '\x7d' :: rest).takeWhile isWordChar = name.toList := by
      rw [List.takeWhile_append_of_pos hname.2, List.takeWhile_cons_of_neg (by decide),
        List.append_nil]
    have hrest : (name.toList ++ '\x7d' :: '\x7d' :: rest).dropWhile isWordChar =
        '\x7d' :: '\x7d' :: rest := by
      rw [List.dropWhile_append_of_pos hname.2, List.dropWhile_cons_of_neg (by decide)]
    have hne : name.toList.isEmpty = false := by simpa using hname.1
    simp [nameAt?, hrun, hrest, hne]

theorem nameAt?_eq_none_of_ne {c : Char} (h : c ≠ '\x7b') (cs : List Char) :
    nameAt? (c :: cs) = none := by
  unfold nameAt?
  split
  · rename_i heq
    exact absurd (List.cons.inj heq).1 h
  · rfl

/-- A text has a placeholder exactly if it contains its written form. -/
theorem mem_occurrences_iff {cs : List Char} {name : String} :
    name ∈ occurrences cs ↔ IsName name.toList ∧ (written name).toList <:+: cs := by
  induction cs with
  | nil => simp [occurrences]
  | cons c cs ih =>
    rw [occurrences, List.mem_append, Option.mem_toList, ih, nameAt?_eq_some_iff,
      List.infix_cons_iff]
    constructor
    · rintro (⟨hname, hstart⟩ | ⟨hname, hlater⟩)
      · exact ⟨hname, .inl hstart⟩
      · exact ⟨hname, .inr hlater⟩
    · rintro ⟨hname, hstart | hlater⟩
      · exact .inl ⟨hname, hstart⟩
      · exact .inr ⟨hname, hlater⟩

/-- Some placeholder starts in the first text and ends in the second one. -/
def Straddles (a b : List Char) : Prop :=
  ∃ name x y, IsName (String.toList name) ∧ (written name).toList = x ++ y ∧ x ≠ [] ∧ y ≠ [] ∧
    x <:+ a ∧ y <+: b

/-- A placeholder at the start of two texts lies in the first one, unless it straddles the seam. -/
theorem nameAt?_append {a b : List Char} (ha : a ≠ []) (h : ¬ Straddles a b) :
    nameAt? (a ++ b) = nameAt? a := by
  apply Option.ext
  intro name
  rw [nameAt?_eq_some_iff, nameAt?_eq_some_iff]
  constructor
  · rintro ⟨hname, hpre⟩
    refine ⟨hname, ?_⟩
    -- the placeholder ends within the first text, or it runs over its end
    rcases List.prefix_or_prefix_of_prefix hpre (List.prefix_append a b) with hin | ⟨y, hy⟩
    · exact hin
    · by_cases hyn : y = []
      · exact ⟨[], by rw [← hy, hyn, List.append_nil, List.append_nil]⟩
      · refine absurd ⟨name, a, y, hname, hy.symm, ha, hyn, List.suffix_rfl, ?_⟩ h
        rwa [← hy, List.prefix_append_right_inj] at hpre
  · rintro ⟨hname, hpre⟩
    exact ⟨hname, hpre.trans (List.prefix_append a b)⟩

theorem Straddles.of_cons {c : Char} {a b : List Char} (h : Straddles a b) :
    Straddles (c :: a) b := by
  obtain ⟨name, x, y, hname, hxy, hx, hy, hxa, hyb⟩ := h
  exact ⟨name, x, y, hname, hxy, hx, hy, hxa.trans (List.suffix_cons c a), hyb⟩

/-- The placeholders of two texts side by side are those of each, unless one straddles the seam. -/
theorem occurrences_append {a b : List Char} (h : ¬ Straddles a b) :
    occurrences (a ++ b) = occurrences a ++ occurrences b := by
  induction a with
  | nil => rfl
  | cons c a ih =>
    have hhead : nameAt? (c :: a ++ b) = nameAt? (c :: a) :=
      nameAt?_append (List.cons_ne_nil c a) h
    have htail := ih fun hs => h hs.of_cons
    rw [List.cons_append] at hhead ⊢
    rw [occurrences, occurrences, hhead, htail, List.append_assoc]

/-- A placeholder starts with a brace, so nothing straddles the end of a text without one. -/
theorem not_straddles_left {a : List Char} (h : '\x7b' ∉ a) (b : List Char) : ¬ Straddles a b := by
  rintro ⟨name, x, y, -, hxy, hx, -, hxa, -⟩
  obtain ⟨c, x, rfl⟩ := List.exists_cons_of_ne_nil hx
  rw [toList_written, List.cons_append] at hxy
  obtain ⟨rfl, -⟩ := List.cons.inj hxy
  exact h (hxa.subset List.mem_cons_self)

theorem closing_mem_of_suffix {name : String} {x y : List Char}
    (hxy : (written name).toList = x ++ y) (hy : y ≠ []) : '\x7d' ∈ y := by
  have hlast : (x ++ y).getLast? = some '\x7d' := by
    rw [← hxy, toList_written]
    simp [List.getLast?_cons]
  rw [List.getLast?_append, List.getLast?_eq_some_getLast hy, Option.some_or] at hlast
  exact List.mem_of_getLast? ((List.getLast?_eq_some_getLast hy).trans hlast)

/-- A placeholder ends with a brace, so nothing straddles the start of a text without one. -/
theorem not_straddles_right {b : List Char} (h : '\x7d' ∉ b) (a : List Char) : ¬ Straddles a b := by
  rintro ⟨name, x, y, -, hxy, -, hy, -, hyb⟩
  exact h (hyb.subset (closing_mem_of_suffix hxy hy))

theorem occurrences_eq_nil {cs : List Char} (h : '\x7b' ∉ cs) : occurrences cs = [] := by
  induction cs with
  | nil => rfl
  | cons c cs ih =>
    rw [List.mem_cons, not_or] at h
    rw [occurrences, nameAt?_eq_none_of_ne (Ne.symm h.1), ih h.2]
    rfl

theorem occurrences_append_left {a : List Char} (h : '\x7b' ∉ a) (b : List Char) :
    occurrences (a ++ b) = occurrences b := by
  rw [occurrences_append (not_straddles_left h b), occurrences_eq_nil h, List.nil_append]

/-! ### Counting -/

theorem nameAt?_append_of_some {a : List Char} {name : String} (h : nameAt? a = some name)
    (b : List Char) : nameAt? (a ++ b) = some name := by
  obtain ⟨hname, hpre⟩ := nameAt?_eq_some_iff.mp h
  exact nameAt?_eq_some_iff.mpr ⟨hname, hpre.trans (List.prefix_append a b)⟩

theorem length_occurrences_cons (c : Char) (cs : List Char) :
    (occurrences (c :: cs)).length =
      (if (nameAt? (c :: cs)).isSome then 1 else 0) + (occurrences cs).length := by
  rw [occurrences, List.length_append]
  cases nameAt? (c :: cs) <;> rfl

/-- No placeholder is lost where two texts meet. -/
theorem length_occurrences_le (a b : List Char) :
    (occurrences a).length + (occurrences b).length ≤ (occurrences (a ++ b)).length := by
  induction a with
  | nil => simp [occurrences]
  | cons c a ih =>
    rw [List.cons_append, length_occurrences_cons, length_occurrences_cons]
    cases hc : nameAt? (c :: a) with
    | none =>
      simp only [Option.isSome_none, Bool.false_eq_true, ↓reduceIte]
      omega
    | some name =>
      have happ := nameAt?_append_of_some hc b
      rw [List.cons_append] at happ
      simp only [happ, Option.isSome_some, ↓reduceIte]
      omega

/-- At one place there is one placeholder only, so none that ends earlier than another. -/
theorem nameAt?_eq_none_of_written {name : String} (h : IsName name.toList) {x y : List Char}
    (hxy : (written name).toList = x ++ y) (hy : y ≠ []) : nameAt? x = none := by
  cases hx : nameAt? x with
  | none => rfl
  | some shorter =>
    -- the shorter one would stand at the same place as the longer one
    have hlong : nameAt? (x ++ y) = some name :=
      nameAt?_eq_some_iff.mpr ⟨h, [], by rw [List.append_nil, hxy]⟩
    rw [nameAt?_append_of_some hx y] at hlong
    obtain rfl := Option.some.inj hlong
    have hle := (nameAt?_eq_some_iff.mp hx).2.length_le
    rw [hxy, List.length_append] at hle
    have := List.length_pos_iff.mpr hy
    omega

/-- A placeholder that straddles the seam of two texts is one more than they have. -/
theorem length_occurrences_lt_of_straddles {a b : List Char} (h : Straddles a b) :
    (occurrences a).length + (occurrences b).length < (occurrences (a ++ b)).length := by
  induction a with
  | nil =>
    obtain ⟨-, x, -, -, -, hx, -, hxa, -⟩ := h
    exact absurd (List.suffix_nil.mp hxa) hx
  | cons c a ih =>
    obtain ⟨name, x, y, hname, hxy, hx, hy, hxa, hyb⟩ := h
    rw [List.cons_append, length_occurrences_cons, length_occurrences_cons]
    -- the straddling placeholder starts here, or further on
    rcases List.suffix_cons_iff.mp hxa with rfl | hxa
    · have hshort := nameAt?_eq_none_of_written hname hxy hy
      have hlong : nameAt? (c :: (a ++ b)) = some name := by
        refine nameAt?_eq_some_iff.mpr ⟨hname, ?_⟩
        rw [hxy, ← List.cons_append, List.prefix_append_right_inj]
        exact hyb
      have hle := length_occurrences_le a b
      simp only [hshort, hlong, Option.isSome_none, Option.isSome_some, Bool.false_eq_true,
        ↓reduceIte]
      omega
    · have hlt := ih ⟨name, x, y, hname, hxy, hx, hy, hxa, hyb⟩
      cases hc : nameAt? (c :: a) with
      | none =>
        simp only [Option.isSome_none, Bool.false_eq_true, ↓reduceIte]
        omega
      | some shorter =>
        have happ := nameAt?_append_of_some hc b
        rw [List.cons_append] at happ
        simp only [happ, Option.isSome_some, ↓reduceIte]
        omega

/-! ### Walls -/

/-- Texts without braces. -/
def isPlain (cs : List Char) : Bool := cs.all fun c => c ≠ '\x7b' && c ≠ '\x7d'

/-- Texts without braces, with a character that no placeholder has. -/
def isWall (cs : List Char) : Bool := isPlain cs && cs.any fun c => !isWordChar c

theorem opening_not_mem_of_isPlain {cs : List Char} (h : isPlain cs = true) : '\x7b' ∉ cs :=
  fun hm => by simpa using List.all_eq_true.mp h _ hm

theorem closing_not_mem_of_isPlain {cs : List Char} (h : isPlain cs = true) : '\x7d' ∉ cs :=
  fun hm => by simpa using List.all_eq_true.mp h _ hm

theorem isPlain_append (a b : List Char) : isPlain (a ++ b) = (isPlain a && isPlain b) := by
  simp [isPlain, List.all_append]

theorem occurrences_append_right {b : List Char} (h : isPlain b = true) (a : List Char) :
    occurrences (a ++ b) = occurrences a := by
  rw [occurrences_append (not_straddles_right (closing_not_mem_of_isPlain h) a),
    occurrences_eq_nil (opening_not_mem_of_isPlain h), List.append_nil]

/-- The characters of a placeholder are word characters and braces. -/
theorem mem_written {name : String} (h : IsName name.toList) {c : Char}
    (hc : c ∈ (written name).toList) : isWordChar c = true ∨ c = '\x7b' ∨ c = '\x7d' := by
  rw [toList_written] at hc
  simp only [List.mem_cons, List.mem_append, List.not_mem_nil, or_false] at hc
  rcases hc with hc | hc | hc | hc | hc
  · exact .inr (.inl hc)
  · exact .inr (.inl hc)
  · exact .inl (h.2 c hc)
  · exact .inr (.inr hc)
  · exact .inr (.inr hc)

/-- A placeholder that straddles the front of a wall would run through the whole of it. -/
theorem not_straddles_wall {m : List Char} (h : isWall m = true) (a b : List Char) :
    ¬ Straddles a (m ++ b) := by
  obtain ⟨hplain, hbreak⟩ := Bool.and_eq_true_iff.mp h
  rintro ⟨name, x, y, hname, hxy, -, hy, -, hyb⟩
  have hclosing : '\x7d' ∉ m := closing_not_mem_of_isPlain hplain
  rcases List.prefix_or_prefix_of_prefix hyb (List.prefix_append m b) with hin | hthrough
  · exact hclosing (hin.subset (closing_mem_of_suffix hxy hy))
  · obtain ⟨c, hc, hword⟩ := List.any_eq_true.mp hbreak
    have hmem : c ∈ (written name).toList := by
      rw [hxy]
      exact List.mem_append_right x (hthrough.subset hc)
    rcases mem_written hname hmem with hw | rfl | rfl
    · rw [hw] at hword
      contradiction
    · exact opening_not_mem_of_isPlain hplain hc
    · exact hclosing hc

/-- Placeholders on the two sides of a wall do not touch each other. -/
theorem occurrences_wall {m : List Char} (h : isWall m = true) (a b : List Char) :
    occurrences (a ++ (m ++ b)) = occurrences a ++ occurrences b := by
  have hplain : isPlain m = true := (Bool.and_eq_true_iff.mp h).1
  rw [occurrences_append (not_straddles_wall h a b),
    occurrences_append_left (opening_not_mem_of_isPlain hplain)]

/-- The names of the placeholders in a text, by a scan that goes on behind each placeholder it
finds. -/
def scan : List Char → List String
  | [] => []
  | c :: cs =>
      match nameAt? (c :: cs) with
      | some name => name :: scan (cs.drop (name.length + 3))
      | none => scan cs
termination_by cs => cs.length
decreasing_by
  · simp only [List.length_drop, List.length_cons]
    omega
  · simp

/-- Nothing starts inside a placeholder. -/
theorem occurrences_written_append {name : String} (h : IsName name.toList) (rest : List Char) :
    occurrences ((written name).toList ++ rest) = name :: occurrences rest := by
  have hstart : nameAt? ((written name).toList ++ rest) = some name :=
    nameAt?_eq_some_iff.mpr ⟨h, List.prefix_append _ _⟩
  have hopen : '\x7b' ∉ name.toList ++ ['\x7d', '\x7d'] := by
    simpa using h.opening_not_mem
  have hsecond : nameAt? ('\x7b' :: (name.toList ++ ['\x7d', '\x7d'] ++ rest)) = none := by
    obtain ⟨c, cs, hcs⟩ := List.exists_cons_of_ne_nil h.1
    have hc : c ≠ '\x7b' := by
      rintro rfl
      exact h.opening_not_mem (hcs ▸ List.mem_cons_self)
    unfold nameAt?
    rw [hcs]
    split
    · rename_i heq
      exact absurd (List.cons.inj (List.cons.inj heq).2).1 hc
    · rfl
  rw [toList_written, List.cons_append, List.cons_append] at hstart ⊢
  rw [occurrences, hstart, occurrences, hsecond, occurrences_append_left hopen]
  rfl

/-- The scan from the left finds all placeholders: two of them never overlap. -/
theorem scan_eq_occurrences (cs : List Char) : scan cs = occurrences cs := by
  fun_induction scan cs with
  | case1 => rfl
  | case2 c cs name hname ih =>
    obtain ⟨hn, rest, hrest⟩ := nameAt?_eq_some_iff.mp hname
    -- the scan goes on where the written form ends
    have hdrop : cs.drop (name.length + 3) = rest := by
      rw [toList_written] at hrest
      obtain ⟨-, rfl⟩ := List.cons.inj hrest
      have hlength : name.length + 3 =
          ('\x7b' :: (name.toList ++ ['\x7d', '\x7d'])).length := by
        simp [String.length_toList]
      rw [hlength]
      exact List.drop_left
    rw [ih, hdrop, ← hrest, occurrences_written_append hn]
  | case3 c cs hname ih => rw [ih, occurrences, hname]; rfl

/-! ### First occurrences -/

theorem eraseDups_filter {α : Type} [BEq α] [LawfulBEq α] (p : α → Bool) (l : List α) :
    (l.filter p).eraseDups = l.eraseDups.filter p := by
  -- what follows an item is filtered before the next step, so the induction is on the length
  induction hn : l.length using Nat.strongRecOn generalizing l with
  | ind n ih =>
    cases l with
    | nil => rfl
    | cons a l =>
      have hlt : (l.filter fun b => !b == a).length < n := by
        have := List.length_filter_le (fun b => !b == a) l
        rw [← hn, List.length_cons]
        omega
      have hrest := ih _ hlt _ rfl
      rw [List.eraseDups_cons, List.filter_cons, List.filter_cons]
      split
      · rw [List.eraseDups_cons, List.filter_filter, ← hrest, List.filter_filter]
        simp only [Bool.and_comm]
      · rename_i hp
        rw [← hrest, List.filter_filter]
        congr 1
        refine List.filter_congr fun b _ => ?_
        by_cases hb : b = a
        · subst hb
          simpa using hp
        · simp [hb]

theorem eraseDups_eraseDups {α : Type} [BEq α] [LawfulBEq α] (l : List α) :
    l.eraseDups.eraseDups = l.eraseDups := by
  induction hn : l.length using Nat.strongRecOn generalizing l with
  | ind n ih =>
    cases l with
    | nil => rfl
    | cons a l =>
      have hlt : (l.filter fun b => !b == a).length < n := by
        have := List.length_filter_le (fun b => !b == a) l
        rw [← hn, List.length_cons]
        omega
      rw [List.eraseDups_cons, List.eraseDups_cons, ← eraseDups_filter, List.filter_filter]
      simp only [Bool.and_self]
      rw [ih _ hlt _ rfl]

theorem nodup_eraseDups {α : Type} [BEq α] [LawfulBEq α] (l : List α) : l.eraseDups.Nodup := by
  induction hn : l.length using Nat.strongRecOn generalizing l with
  | ind n ih =>
    cases l with
    | nil => exact List.nodup_nil
    | cons a l =>
      have hlt : (l.filter fun b => !b == a).length < n := by
        have := List.length_filter_le (fun b => !b == a) l
        rw [← hn, List.length_cons]
        omega
      rw [List.eraseDups_cons, List.nodup_cons, List.mem_eraseDups]
      exact ⟨by simp, ih _ hlt _ rfl⟩

/-- The first occurrences in two lists side by side depend on those in each list only. -/
theorem eraseDups_append_congr {α : Type} [BEq α] [LawfulBEq α] {as as' bs bs' : List α}
    (ha : as.eraseDups = as'.eraseDups) (hb : bs.eraseDups = bs'.eraseDups) :
    (as ++ bs).eraseDups = (as' ++ bs').eraseDups := by
  have hmem (b : α) : as.contains b = as'.contains b := by
    rw [Bool.eq_iff_iff, List.contains_iff_mem, List.contains_iff_mem, ← List.mem_eraseDups,
      ha, List.mem_eraseDups]
  rw [List.eraseDups_append, List.eraseDups_append, ha, List.removeAll, List.removeAll,
    eraseDups_filter, eraseDups_filter, hb]
  simp only [List.elem_eq_contains, hmem]

theorem eraseDups_append_self {α : Type} [BEq α] [LawfulBEq α] (l : List α) :
    (l ++ l).eraseDups = l.eraseDups := by
  have hself : l.removeAll l = [] := by
    rw [List.removeAll, List.filter_eq_nil_iff]
    intro a ha
    simpa using ha
  rw [List.eraseDups_append, hself, List.eraseDups_nil, List.append_nil]

theorem eraseDups_flatMap_congr {α β : Type} [BEq β] [LawfulBEq β] {f g : α → List β}
    {l : List α} (h : ∀ a ∈ l, (f a).eraseDups = (g a).eraseDups) :
    (l.flatMap f).eraseDups = (l.flatMap g).eraseDups := by
  induction l with
  | nil => rfl
  | cons a l ih =>
    rw [List.flatMap_cons, List.flatMap_cons]
    exact eraseDups_append_congr (h a List.mem_cons_self)
      (ih fun b hb => h b (List.mem_cons_of_mem a hb))

end MailTemplate.Placeholder
