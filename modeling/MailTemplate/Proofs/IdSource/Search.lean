import MailTemplate.Proofs.IdSource.Fresh

/-!
# The search for a free id has an end

A search draws one id after the other as long as they are taken. Nothing in it bounds the number of
draws, and the texts of the script may be taken ids, or all the same.

* `Search`: the searches that have an end;
* `Search.of_nth` and `Search.spec`: they pass over the ids before the first free one;
* `EndsAt` and `exists_endsAt`: every search ends, in one way only, and there it is that the bounded
  search ends too.
-/

namespace MailTemplate.IdSource

variable {kind : String} {taken : List String} {ids rest : IdSource} {m n : Nat} {id : String}

/-- A search that has an end: how many taken ids are drawn, the id after them, and the source that is
left. -/
inductive Search (kind : String) (taken : List String) : IdSource → Nat → String → IdSource → Prop
  | found {ids : IdSource} (h : (ids.draw kind).1 ∉ taken) :
      Search kind taken ids 0 (ids.draw kind).1 (ids.draw kind).2
  | again {ids rest : IdSource} {m : Nat} {id : String} (h : (ids.draw kind).1 ∈ taken)
      (next : Search kind taken (ids.draw kind).2 m id rest) : Search kind taken ids (m + 1) id rest

theorem Search.of_nth (hpassed : ∀ j < m, ids.nth kind j ∈ taken) (hfree : ids.nth kind m ∉ taken) :
    Search kind taken ids m (ids.nth kind m) (ids.skip (m + 1)) := by
  induction m generalizing ids with
  | zero =>
    rw [← draw_snd kind ids]
    exact .found hfree
  | succ m ih =>
    -- the search goes on with the source after the first draw
    have hnext (j : Nat) : (ids.skip 1).nth kind j = ids.nth kind (j + 1) := by
      rw [nth_skip, Nat.add_comm 1 j]
    have hpassed' : ∀ j < m, (ids.skip 1).nth kind j ∈ taken := fun j hj => by
      rw [hnext]
      exact hpassed (j + 1) (Nat.succ_lt_succ hj)
    have hlater := ih hpassed' (by rwa [hnext])
    rw [hnext, skip_skip, Nat.add_comm 1, ← draw_snd kind ids] at hlater
    exact .again (hpassed 0 (Nat.succ_pos m)) hlater

theorem Search.spec (h : Search kind taken ids m id rest) :
    (∀ j < m, ids.nth kind j ∈ taken) ∧ ids.nth kind m ∉ taken ∧ id = ids.nth kind m ∧
      rest = ids.skip (m + 1) := by
  induction h with
  | found h => exact ⟨fun j hj => absurd hj (Nat.not_lt_zero j), h, rfl, draw_snd kind _⟩
  | again h _ ih =>
    simp only [draw_snd, nth_skip, skip_skip, Nat.add_comm 1] at ih
    obtain ⟨hpassed, hfree, hid, hrest⟩ := ih
    refine ⟨fun j hj => ?_, hfree, hid, hrest⟩
    cases j with
    | zero => exact h
    | succ j => exact hpassed j (Nat.lt_of_succ_lt_succ hj)

/-- The first free id is at one position only. -/
theorem first_unique (hm : ∀ j < m, ids.nth kind j ∈ taken) (hm' : ids.nth kind m ∉ taken)
    (hn : ∀ j < n, ids.nth kind j ∈ taken) (hn' : ids.nth kind n ∉ taken) : n = m := by
  rcases Nat.lt_trichotomy n m with hlt | heq | hlt
  · exact absurd (hm n hlt) hn'
  · exact heq
  · exact absurd (hn m hlt) hm'

/-- The search for a free id has an end, and only one. It is at the given position: all ids drawn before
are taken, and the one drawn there is not. -/
structure EndsAt (kind : String) (taken : List String) (ids : IdSource) (m : Nat) : Prop where
  passed : ∀ j < m, ids.nth kind j ∈ taken
  free : ids.nth kind m ∉ taken
  search_iff : ∀ n id rest, Search kind taken ids n id rest ↔
    n = m ∧ id = ids.nth kind m ∧ rest = ids.skip (m + 1)

theorem endsAt_of_nth (hpassed : ∀ j < m, ids.nth kind j ∈ taken)
    (hfree : ids.nth kind m ∉ taken) : EndsAt kind taken ids m := by
  refine ⟨hpassed, hfree, fun n id rest => ⟨fun h => ?_, ?_⟩⟩
  · obtain ⟨hpassed', hfree', hid, hrest⟩ := h.spec
    obtain rfl := first_unique hpassed hfree hpassed' hfree'
    exact ⟨rfl, hid, hrest⟩
  · rintro ⟨rfl, rfl, rfl⟩
    exact .of_nth hpassed hfree

/-- Every search has an end, and the bounded search ends there too. The taken ids that it draws are no
more than the texts of the script and the ids that are taken. -/
theorem exists_endsAt (kind : String) (taken : List String) (ids : IdSource) :
    ∃ m ≤ ids.script.length + taken.length, EndsAt kind taken ids m ∧
      ids.fresh kind taken = (ids.nth kind m, ids.skip (m + 1)) := by
  obtain ⟨m, hm, hpassed, hfree, hfresh⟩ := fresh_spec kind taken ids
  exact ⟨m, hm, endsAt_of_nth hpassed hfree, hfresh⟩

end MailTemplate.IdSource
