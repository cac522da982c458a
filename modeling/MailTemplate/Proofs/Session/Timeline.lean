import MailTemplate.Proofs.Session.Step

/-!
# The history of a session as a timeline

The two stacks of a session are one list of versions with a cursor at the current one.

* `Timeline`: the versions of a document and a cursor, never more of them than the limit allows;
* `Timeline.record`, `undo`, `redo` and `next`: what an edit, a travel and any command do to it;
* `Session.Shows` and `shows_run`: the session shows a timeline, and goes on showing it;
* `follow_timeline`: a session follows its timeline in every run, and what that says of undoing.
-/

namespace MailTemplate

/-- The versions of a document from the oldest to the latest one, and a cursor at the current
version. At most as many versions as the limit says, if it is positive, stand beside that one. -/
structure Timeline (limit : Int) where
  versions : List Document
  cursor : Nat
  cursor_lt : cursor < versions.length
  length_le : versions.length ≤ limit.toNat + 1

namespace Timeline

variable {limit : Int}

/-- The version at the cursor. -/
def current (t : Timeline limit) : Document := t.versions.get ⟨t.cursor, t.cursor_lt⟩

/-- A single version. -/
def start (limit : Int) (d : Document) : Timeline limit := ⟨[d], 0, by simp, by simp⟩

/-- The versions up to the current one and a new one, which becomes the current one. The oldest
version is dropped if the cursor would go beyond the limit. -/
def record (t : Timeline limit) (d : Document) : Timeline limit :=
  let versions := t.versions.take (t.cursor + 1) ++ [d]
  have hlength : versions.length = t.cursor + 2 := by
    have := t.cursor_lt
    simp only [versions, List.length_append, List.length_take, List.length_singleton]
    omega
  if hfull : max limit 0 < ((t.cursor + 1 : Nat) : Int) then
    -- all versions move up by one place, so the cursor keeps its own
    { versions := versions.tail
      cursor := t.cursor
      cursor_lt := by rw [List.length_tail, hlength]; omega
      length_le := by
        have := t.cursor_lt
        have := t.length_le
        rw [List.length_tail, hlength]
        omega }
  else
    { versions
      cursor := t.cursor + 1
      cursor_lt := by omega
      length_le := by omega }

/-- One version back, unless the current one is the oldest. -/
def undo (t : Timeline limit) : Timeline limit :=
  { t with
    cursor := t.cursor - 1
    cursor_lt := by have := t.cursor_lt; omega }

/-- One version on, unless the current one is the latest. -/
def redo (t : Timeline limit) : Timeline limit :=
  { t with
    cursor := min (t.cursor + 1) (t.versions.length - 1)
    cursor_lt := by have := t.cursor_lt; omega }

/-- What a command does to a timeline, given the document that it makes of the current version if it
makes one. -/
def next (t : Timeline limit) : Session.Command → Option Document → Timeline limit
  | .undo, _ => t.undo
  | .redo, _ => t.redo
  | _, some d => t.record d
  | _, none => t

theorem cursor_le (t : Timeline limit) : t.cursor ≤ limit.toNat := by
  have := t.cursor_lt
  have := t.length_le
  omega

theorem ext_versions {t u : Timeline limit} (hv : t.versions = u.versions)
    (hc : t.cursor = u.cursor) : t = u := by
  cases t
  cases u
  simp only at hv hc
  subst hv hc
  rfl

end Timeline

namespace Session

variable {limit : Int}

/-- A session shows a timeline: its document is the current version, its stacks are the versions on
either side of that. -/
structure Shows (s : Session) (t : Timeline limit) : Prop where
  limit_eq : s.limit = limit
  document_eq : s.document = t.current
  past_eq : s.past.reverse = t.versions.take t.cursor
  future_eq : s.future = t.versions.drop (t.cursor + 1)

namespace Shows

variable {s : Session} {t : Timeline limit}

theorem of_split (hl : s.limit = limit)
    (hv : t.versions = s.past.reverse ++ s.document :: s.future)
    (hc : t.cursor = s.past.length) : s.Shows t where
  limit_eq := hl
  document_eq := by
    simp only [Timeline.current, List.get_eq_getElem, hv, hc]
    rw [List.getElem_append_right (by simp)]
    simp
  past_eq := by
    rw [hv, hc, ← List.length_reverse, List.take_left]
  future_eq := by
    rw [hv, hc, List.append_cons]
    have hlength : s.past.length + 1 = (s.past.reverse ++ [s.document]).length := by simp
    rw [hlength, List.drop_left]

theorem length_past (h : s.Shows t) : s.past.length = t.cursor := by
  have := t.cursor_lt
  rw [← List.length_reverse, h.past_eq, List.length_take]
  omega

theorem versions_eq (h : s.Shows t) :
    t.versions = s.past.reverse ++ s.document :: s.future := by
  rw [h.past_eq, h.future_eq, h.document_eq, Timeline.current, List.get_eq_getElem,
    List.getElem_cons_drop, List.take_append_drop]

theorem length_versions (h : s.Shows t) :
    t.versions.length = s.past.length + s.future.length + 1 := by
  rw [h.versions_eq, List.length_append, List.length_reverse, List.length_cons]
  omega

/-- A timeline is all that the two stacks and the document say. -/
theorem stacks_eq {s' : Session} (h : s.Shows t) (h' : s'.Shows t) :
    s'.document = s.document ∧ s'.past = s.past ∧ s'.future = s.future := by
  refine ⟨h'.document_eq.trans h.document_eq.symm, ?_, h'.future_eq.trans h.future_eq.symm⟩
  exact List.reverse_inj.mp (h'.past_eq.trans h.past_eq.symm)

end Shows

theorem shows_start (d : Document) (limit : Int) :
    (start d limit).Shows (Timeline.start limit d) :=
  .of_split rfl rfl rfl

/-! ### One command -/

section Step

variable {s : Session} {t : Timeline limit}

/-- The selection is no part of the history. -/
theorem Shows.of_fields {s' : Session} (h : s.Shows t) (hl : s'.limit = s.limit)
    (hd : s'.document = s.document) (hp : s'.past = s.past) (hf : s'.future = s.future) :
    s'.Shows t where
  limit_eq := hl.trans h.limit_eq
  document_eq := hd.trans h.document_eq
  past_eq := by rw [hp, h.past_eq]
  future_eq := hf.trans h.future_eq

/-- Where the limit is exceeded, the earliest of the earlier documents is dropped. -/
theorem bounded_cons (limit : Int) (d : Document) (past : List Document) :
    bounded limit (d :: past) =
      if max limit 0 < ((past.length + 1 : Nat) : Int) then (d :: past).dropLast
      else d :: past := by
  have hiff : limit < ((d :: past).length : Int) ↔
      max limit 0 < ((past.length + 1 : Nat) : Int) := by
    rw [List.length_cons]
    omega
  simp only [bounded, hiff]

theorem shows_commit (h : s.Shows t) (d : Document) : (s.commit d).Shows (t.record d) := by
  have hlength := h.length_past
  -- the versions up to the current one are the earlier documents and the document itself
  have htake : t.versions.take (t.cursor + 1) = s.past.reverse ++ [s.document] := by
    rw [h.versions_eq, List.append_cons, ← hlength]
    have hfront : s.past.length + 1 = (s.past.reverse ++ [s.document]).length := by simp
    rw [hfront, List.take_left]
  have hbounded := bounded_cons limit s.document s.past
  rw [hlength] at hbounded
  by_cases hfull : max limit 0 < ((t.cursor + 1 : Nat) : Int)
  · rw [if_pos hfull] at hbounded
    refine .of_split h.limit_eq ?_ ?_
    · simp only [Timeline.record, dif_pos hfull, htake, commit, h.limit_eq, hbounded]
      rw [← List.tail_reverse, List.reverse_cons, List.tail_append_of_ne_nil (by simp)]
    · simp only [Timeline.record, dif_pos hfull, commit, h.limit_eq, hbounded]
      rw [List.length_dropLast, List.length_cons, hlength, Nat.add_sub_cancel]
  · rw [if_neg hfull] at hbounded
    refine .of_split h.limit_eq ?_ ?_
    · simp only [Timeline.record, dif_neg hfull, htake, commit, h.limit_eq, hbounded]
      rw [List.reverse_cons]
    · simp only [Timeline.record, dif_neg hfull, commit, h.limit_eq, hbounded]
      rw [List.length_cons, hlength]

theorem shows_undo (h : s.Shows t) (settings : Settings) (source : IdSource) :
    (s.run settings .undo source).session.Shows t.undo := by
  have hlength := h.length_past
  cases hpast : s.past with
  | nil =>
    rw [hpast, List.length_nil] at hlength
    have hsame : t.undo = t := Timeline.ext_versions rfl (by simp only [Timeline.undo]; omega)
    rw [run_undo_nil settings s source hpast, hsame]
    exact h
  | cons d past =>
    rw [hpast, List.length_cons] at hlength
    rw [run_undo_cons settings s source hpast]
    refine .of_split h.limit_eq ?_ ?_
    · have hv := h.versions_eq
      rw [hpast, List.reverse_cons, List.append_assoc] at hv
      exact hv
    · simp only [Timeline.undo, quietly, reselect, select]
      omega

theorem shows_redo (h : s.Shows t) (settings : Settings) (source : IdSource) :
    (s.run settings .redo source).session.Shows t.redo := by
  have hlength := h.length_past
  have hversions := h.length_versions
  cases hfuture : s.future with
  | nil =>
    rw [hfuture, List.length_nil] at hversions
    have hsame : t.redo = t := Timeline.ext_versions rfl (by simp only [Timeline.redo]; omega)
    rw [run_redo_nil settings s source hfuture, hsame]
    exact h
  | cons d future =>
    rw [hfuture, List.length_cons] at hversions
    rw [run_redo_cons settings s source hfuture]
    refine .of_split h.limit_eq ?_ ?_
    · have hv := h.versions_eq
      rw [hfuture, List.append_cons, ← List.reverse_cons] at hv
      exact hv
    · simp only [Timeline.redo, quietly, reselect, select, List.length_cons]
      omega

/-- What a command does to a session, `Timeline.next` does to the timeline that it shows. -/
theorem shows_run (h : s.Shows t) (settings : Settings) (source : IdSource) (command : Command) :
    (s.run settings command source).session.Shows
      (t.next command (command.edited? settings t.current s.selected source)) := by
  rw [← h.document_eq]
  by_cases hedit : command.isEdit = true
  · -- an edit records the document that it makes, if it makes one
    rw [session_run_edit settings s source hedit, afterEdit]
    cases hd : command.edited? settings s.document s.selected source with
    | none =>
      cases command <;> first | exact h | contradiction
    | some d =>
      have hcommit : Shows { s.commit d with selected := command.selection s.selected d }
          (t.record d) := (shows_commit h d).of_fields rfl rfl rfl rfl
      cases command <;> first | exact hcommit | contradiction
  · cases command with
    | undo => exact shows_undo h settings source
    | redo => exact shows_redo h settings source
    | select index => exact h.of_fields rfl rfl rfl rfl
    | _ => exact absurd rfl hedit

theorem reply_undo (h : s.Shows t) (settings : Settings) (source : IdSource) :
    (s.run settings .undo source).reply = .ok (.done (decide (0 < t.cursor))) := by
  rw [← h.length_past]
  cases hpast : s.past with
  | nil => rw [run_undo_nil settings s source hpast]; rfl
  | cons d past => rw [run_undo_cons settings s source hpast]; simp [quietly]

theorem reply_redo (h : s.Shows t) (settings : Settings) (source : IdSource) :
    (s.run settings .redo source).reply =
      .ok (.done (decide (t.cursor + 1 < t.versions.length))) := by
  rw [h.length_versions, ← h.length_past]
  cases hfuture : s.future with
  | nil => rw [run_redo_nil settings s source hfuture]; simp [quietly]
  | cons d future =>
    rw [run_redo_cons settings s source hfuture, List.length_cons]
    simp only [quietly]
    congr
    rw [eq_comm, decide_eq_true_eq]
    omega

end Step

end Session

/-! ### Runs -/

/-- A timeline after a run of commands, of which the session only tells the selected block. -/
def Timeline.follow {limit : Int} (settings : Settings) (t : Timeline limit) (s : Session)
    (source : IdSource) : List Session.Command → Timeline limit
  | [] => t
  | command :: commands =>
      let outcome := s.run settings command source
      (t.next command (command.edited? settings t.current s.selected source)).follow settings
        outcome.session outcome.source commands

namespace Session

variable {limit : Int} {s : Session} {t : Timeline limit} (settings : Settings)

theorem shows_follow (h : s.Shows t) (source : IdSource) (commands : List Command) :
    (after settings s source commands).1.Shows (t.follow settings s source commands) := by
  induction commands generalizing s t source with
  | nil => exact h
  | cons command commands ih => exact ih (shows_run h settings source command) _

theorem follow_append (t : Timeline limit) (s : Session) (source : IdSource)
    (first second : List Command) :
    t.follow settings s source (first ++ second) =
      (t.follow settings s source first).follow settings (after settings s source first).1
        (after settings s source first).2 second := by
  induction first generalizing t s source with
  | nil => rfl
  | cons command first ih => exact ih _ _ _

theorem follow_undos (t : Timeline limit) (s : Session) (source : IdSource) (k : Nat) :
    (t.follow settings s source (List.replicate k .undo)).versions = t.versions ∧
      (t.follow settings s source (List.replicate k .undo)).cursor = t.cursor - k := by
  induction k generalizing t s source with
  | zero => exact ⟨rfl, rfl⟩
  | succ k ih =>
    obtain ⟨hv, hc⟩ := ih t.undo (s.run settings .undo source).session
      (s.run settings .undo source).source
    refine ⟨hv, hc.trans ?_⟩
    simp only [Timeline.undo]
    omega

theorem follow_redos (t : Timeline limit) (s : Session) (source : IdSource) (k : Nat) :
    (t.follow settings s source (List.replicate k .redo)).versions = t.versions ∧
      (t.follow settings s source (List.replicate k .redo)).cursor =
        min (t.cursor + k) (t.versions.length - 1) := by
  induction k generalizing t s source with
  | zero =>
    refine ⟨rfl, ?_⟩
    have := t.cursor_lt
    simp only [List.replicate_zero, Timeline.follow]
    omega
  | succ k ih =>
    obtain ⟨hv, hc⟩ := ih t.redo (s.run settings .redo source).session
      (s.run settings .redo source).source
    refine ⟨hv, hc.trans ?_⟩
    simp only [Timeline.redo]
    omega

/-- As many undos succeed in a row as there are versions before the current one. -/
theorem replies_undos_iff (h : s.Shows t) (source : IdSource) (k : Nat) :
    replies settings s source (List.replicate k .undo) =
        List.replicate k (.ok (.done true)) ↔ k ≤ t.cursor := by
  induction k generalizing s t source with
  | zero => simp [replies]
  | succ k ih =>
    rw [List.replicate_succ, List.replicate_succ, replies_cons, reply_undo h, List.cons.injEq,
      ih (shows_undo h settings source), Except.ok.injEq, Reply.done.injEq, decide_eq_true_eq]
    simp only [Timeline.undo]
    omega

/-- The redos that take back undos lead to the same place of the timeline. -/
theorem stacks_undos_redos (h : s.Shows t) (source : IdSource) {k : Nat} (hk : k ≤ t.cursor) :
    let s' := (after settings s source
      (List.replicate k .undo ++ List.replicate k .redo)).1
    s'.document = s.document ∧ s'.past = s.past ∧ s'.future = s.future := by
  have hshows := shows_follow settings h source
    (List.replicate k .undo ++ List.replicate k .redo)
  obtain ⟨hundov, hundoc⟩ := follow_undos settings t s source k
  obtain ⟨hredov, hredoc⟩ := follow_redos settings
    (t.follow settings s source (List.replicate k .undo))
    (after settings s source (List.replicate k .undo)).1
    (after settings s source (List.replicate k .undo)).2 k
  rw [follow_append] at hshows
  -- the cursor goes back by `k` and on by `k`, and meets neither end
  have hback := Timeline.ext_versions (hredov.trans hundov) <| by
    have := t.cursor_lt
    rw [hredoc, hundov, hundoc, Nat.sub_add_cancel hk]
    omega
  rw [hback] at hshows
  exact h.stacks_eq hshows

/-- How many commands of a run make a new document. -/
def commits (s : Session) (source : IdSource) : List Command → Nat
  | [] => 0
  | command :: commands =>
      let outcome := s.run settings command source
      (if (command.edited? settings s.document s.selected source).isSome then 1 else 0) +
        commits outcome.session outcome.source commands

theorem cursor_record (t : Timeline limit) (d : Document) :
    (t.record d).cursor = min (t.cursor + 1) limit.toNat := by
  have := t.cursor_le
  by_cases hfull : max limit 0 < ((t.cursor + 1 : Nat) : Int)
  · simp only [Timeline.record, dif_pos hfull]
    omega
  · simp only [Timeline.record, dif_neg hfull]
    omega

/-- Without travels, every new document moves the cursor on, up to the limit. -/
theorem cursor_follow (h : s.Shows t) (source : IdSource) {commands : List Command}
    (hc : ∀ command ∈ commands, command ≠ .undo ∧ command ≠ .redo) :
    (t.follow settings s source commands).cursor =
      min (t.cursor + commits settings s source commands) limit.toNat := by
  induction commands generalizing s t source with
  | nil =>
    have := t.cursor_le
    simp only [Timeline.follow, commits]
    omega
  | cons command commands ih =>
    obtain ⟨hundo, hredo⟩ := hc command List.mem_cons_self
    have hrest := ih (shows_run h settings source command)
      (s.run settings command source).source
      fun c hmem => hc c (List.mem_cons_of_mem command hmem)
    rw [Timeline.follow, hrest, commits, ← h.document_eq]
    cases hd : command.edited? settings s.document s.selected source with
    | none =>
      have hnext : t.next command none = t := by
        cases command <;> first | rfl | contradiction
      rw [hnext]
      simp
    | some d =>
      have hnext : t.next command (some d) = t.record d := by
        cases command <;> first | rfl | contradiction
      rw [hnext, cursor_record]
      simp only [Option.isSome_some, ↓reduceIte]
      omega

/-- A session follows a timeline of versions in every run: edits record, travels move the cursor and
succeed exactly if there is somewhere to go, and nothing else touches it. So redos take back as many
undos, and a new session without travels can undo its commits as far as its limit allows. -/
theorem follow_timeline (d : Document) (limit : Int) (source : IdSource)
    (commands : List Command) :
    let s := (after settings (start d limit) source commands).1
    let t := (Timeline.start limit d).follow settings (start d limit) source commands
    s.Shows t ∧
      (∀ ids, (s.run settings .undo ids).reply = .ok (.done (decide (0 < t.cursor)))) ∧
      (∀ ids, (s.run settings .redo ids).reply =
        .ok (.done (decide (t.cursor + 1 < t.versions.length)))) ∧
      (∀ ids k, replies settings s ids (List.replicate k .undo) =
          List.replicate k (.ok (.done true)) →
        let s' := (after settings s ids (List.replicate k .undo ++ List.replicate k .redo)).1
        s'.document = s.document ∧ s'.past = s.past ∧ s'.future = s.future) ∧
      ((∀ command ∈ commands, command ≠ .undo ∧ command ≠ .redo) →
        ∀ ids (k : Nat), replies settings s ids (List.replicate k .undo) =
            List.replicate k (.ok (.done true)) ↔
          (k : Int) ≤
            min (commits settings (start d limit) source commands : Int) (max limit 0)) := by
  intro s t
  have hshows : s.Shows t := shows_follow settings (shows_start d limit) source commands
  refine ⟨hshows, reply_undo hshows settings, reply_redo hshows settings,
    fun ids k hk => ?_, fun hc ids k => ?_⟩
  · exact stacks_undos_redos settings hshows ids
      ((replies_undos_iff settings hshows ids k).mp hk)
  · have hcursor := cursor_follow settings (shows_start d limit) source hc
    rw [replies_undos_iff settings hshows ids k, hcursor]
    simp only [Timeline.start]
    omega

end Session
end MailTemplate
