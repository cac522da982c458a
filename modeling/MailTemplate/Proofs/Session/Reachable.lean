import MailTemplate.Proofs.Document.Sound
import MailTemplate.Proofs.Session.Timeline

/-!
# What holds of a session throughout

* `Session.Moves` and `moves_run`: what a command can do to the documents of a session;
* `forall_documents_after`: what edits preserve is true of all documents of a session;
* `Session.Sound`: the selected index is one of the document, and all documents are sound;
* `sound_run` and `sound_after`: commands keep a session sound;
* `reachable_sound`: what this says of a session, whatever it is asked.
-/

namespace MailTemplate

@[simp] theorem Kind.isName_name (kind : Kind) : isName (.str kind.name) = .ok true := by
  simp [isName, Json.isScalar, Json.text?]

/-- An edit makes one document of another one, under some settings and with some source of ids. -/
def Edit.Makes (edit : Edit) (d e : Document) : Prop :=
  ∃ settings source, (edit.apply settings d source).1 = .ok (some e)

namespace Session

/-- The current document, and those that undoing and redoing can restore. -/
def documents (s : Session) : List Document := s.document :: (s.past ++ s.future)

/-- What a command can do to the documents of a session: nothing, make a new one, or go to one of
the two next to the current one. -/
inductive Moves (s t : Session) : Prop
  | stays (hdocument : t.document = s.document) (hpast : t.past = s.past)
      (hfuture : t.future = s.future)
  | commits (edit : Edit) (hmakes : edit.Makes s.document t.document)
      (hpast : t.past = bounded s.limit (s.document :: s.past)) (hfuture : t.future = [])
  | undoes (hpast : s.past = t.document :: t.past) (hfuture : t.future = s.document :: s.future)
  | redoes (hfuture : s.future = t.document :: t.future) (hpast : t.past = s.document :: s.past)

/-- The selection points into the document, and all documents are sound. -/
structure Sound (s : Session) : Prop where
  selected_lt : ∀ {i}, s.selected = some i → i < s.document.blocks.length
  documents_sound : ∀ d ∈ s.documents, d.Sound

variable {settings : Settings} {s : Session} {source : IdSource}

theorem Sound.document_sound (h : s.Sound) : s.document.Sound :=
  h.documents_sound _ List.mem_cons_self

/-- The selected block is there. -/
theorem Sound.selectedBlock?_eq_some (h : s.Sound) {i : Nat} (hi : s.selected = some i) :
    ∃ block, s.document.blocks[i]? = some block ∧ s.selectedBlock? = some block := by
  have hblock := List.getElem?_eq_getElem (h.selected_lt hi)
  refine ⟨_, hblock, ?_⟩
  rw [selectedBlock?, hi, Option.bind_some, hblock]

theorem sound_start {d : Document} (h : d.Sound) (limit : Int) : (start d limit).Sound where
  selected_lt := fun hi => (nomatch hi)
  documents_sound := by
    intro e he
    obtain rfl := List.mem_singleton.mp he
    exact h

/-! ### Edits -/

theorem Command.edited?_eq_some {command : Command} {selected : Option Nat} {d e : Document}
    (h : command.edited? settings d selected source = some e) :
    ∃ edit, command.edit? (selected.bind fun i => d.blocks[i]?) = some edit ∧
      (edit.apply settings d source).1 = .ok (some e) := by
  unfold edited? at h
  split at h
  · contradiction
  · rename_i edit hedit
    split at h
    · rename_i result hresult
      exact ⟨edit, hedit, hresult.trans (congrArg _ h)⟩
    · contradiction

/-- Every edit leaves a selection that points into the new document. -/
theorem Command.selection_lt {command : Command} {selected : Option Nat} {d e : Document}
    (h : command.edited? settings d selected source = some e)
    (hselected : ∀ {i}, selected = some i → i < d.blocks.length) {i : Nat}
    (hi : command.selection selected e = some i) : i < e.blocks.length := by
  obtain ⟨edit, hedit, he⟩ := edited?_eq_some h
  cases command with
  | insert kind =>
    cases hedit
    obtain ⟨k, -, rfl, -⟩ := Document.insert_eq_ok (Prod.ext (map_some_eq_ok.mp he) rfl)
    obtain rfl := Option.some.inj hi
    simp
  | update id changes =>
    cases hedit
    rw [Document.length_update (map_some_eq_ok.mp he)]
    exact hselected hi
  | updateSelected changes =>
    obtain ⟨block, -, rfl⟩ := Option.map_eq_some_iff.mp hedit
    rw [Document.length_update (map_some_eq_ok.mp he)]
    exact hselected hi
  | move index offset =>
    cases hedit
    have hmove := Except.ok.inj he
    obtain ⟨-, _, j, -, hj, -⟩ := Document.move_eq_some.mp hmove
    obtain ⟨hj, hlt⟩ := Document.position?_eq_some.mp hj
    obtain rfl := Option.some.inj hi
    -- the target is a position of the document, and a move keeps its length
    rw [Document.length_move hmove]
    omega
  | duplicate index =>
    cases hedit
    obtain ⟨i', block, hi', -, rfl, -⟩ :=
      Document.duplicate_eq_ok (Prod.ext (map_some_eq_ok.mp he) rfl)
    obtain ⟨hi', hlt⟩ := Document.position?_eq_some.mp hi'
    obtain rfl := Option.some.inj hi
    rw [List.length_insertIdx_of_le_length hlt]
    omega
  | remove id => contradiction
  | restyle changes =>
    cases hvalues : changes.namedValues ["self"] with
    | error failure => simp [edit?, hvalues] at hedit
    | ok values =>
      simp only [edit?, hvalues, Option.some.injEq] at hedit
      subst hedit
      obtain ⟨_, -, he⟩ := bind_eq_ok.mp (map_some_eq_ok.mp he)
      obtain ⟨_, -, rfl⟩ := Document.restyle_eq_ok he
      exact hselected hi
  | select index => contradiction
  | undo => contradiction
  | redo => contradiction

/-! ### Commands and runs -/

/-- A selection made anew points into the document. -/
theorem select_lt (s : Session) (index : Option Int) {i : Nat}
    (h : (s.select index).selected = some i) : i < s.document.blocks.length := by
  obtain ⟨n, -, hn⟩ := Option.bind_eq_some_iff.mp h
  exact (Document.position?_eq_some.mp hn).2

theorem moves_run (settings : Settings) (s : Session) (source : IdSource) (command : Command) :
    Moves s (s.run settings command source).session := by
  by_cases hedit : command.isEdit = true
  · rw [session_run_edit settings s source hedit, afterEdit]
    split
    · rename_i d hd
      obtain ⟨edit, -, hmakes⟩ := Command.edited?_eq_some hd
      exact .commits edit ⟨settings, source, hmakes⟩ rfl rfl
    · exact .stays rfl rfl rfl
  · cases command with
    | select index => exact .stays rfl rfl rfl
    | undo =>
      cases hpast : s.past with
      | nil =>
        rw [run_undo_nil settings s source hpast]
        exact .stays rfl rfl rfl
      | cons d past =>
        rw [run_undo_cons settings s source hpast]
        exact .undoes hpast rfl
    | redo =>
      cases hfuture : s.future with
      | nil =>
        rw [run_redo_nil settings s source hfuture]
        exact .stays rfl rfl rfl
      | cons d future =>
        rw [run_redo_cons settings s source hfuture]
        exact .redoes hfuture rfl
    | _ => exact absurd rfl hedit

theorem mem_of_mem_bounded {limit : Int} {past : List Document} {d : Document}
    (h : d ∈ bounded limit past) : d ∈ past := by
  unfold bounded at h
  split at h
  · exact List.dropLast_subset past h
  · exact h

/-- Every document of a session was there before the last command, or that has made it. -/
theorem Moves.mem_documents {t : Session} (h : Moves s t) {e : Document} (he : e ∈ t.documents) :
    e ∈ s.documents ∨ ∃ edit : Edit, edit.Makes s.document e := by
  simp only [documents, List.mem_cons, List.mem_append] at he ⊢
  cases h with
  | stays hdocument hpast hfuture =>
    rw [hdocument, hpast, hfuture] at he
    exact .inl he
  | commits edit hmakes hpast hfuture =>
    rw [hpast, hfuture] at he
    rcases he with rfl | he | he
    · exact .inr ⟨edit, hmakes⟩
    · have hold := mem_of_mem_bounded he
      grind
    · contradiction
  | undoes hpast hfuture =>
    rw [hpast]
    rw [hfuture] at he
    grind
  | redoes hfuture hpast =>
    rw [hfuture]
    rw [hpast] at he
    grind

/-- What edits preserve is true of all documents of a session if it is true of those before. -/
theorem forall_documents_run {P : Document → Prop}
    (hP : ∀ {edit : Edit} {d e : Document}, P d → edit.Makes d e → P e)
    (h : ∀ d ∈ s.documents, P d) (command : Command) :
    ∀ d ∈ (s.run settings command source).session.documents, P d := by
  intro e he
  rcases (moves_run settings s source command).mem_documents he with hold | ⟨edit, hmakes⟩
  · exact h e hold
  · exact hP (h _ List.mem_cons_self) hmakes

theorem selected_lt_run (h : s.Sound) (command : Command) {i : Nat}
    (hi : (s.run settings command source).session.selected = some i) :
    i < (s.run settings command source).session.document.blocks.length := by
  by_cases hedit : command.isEdit = true
  · rw [session_run_edit settings s source hedit, afterEdit] at hi ⊢
    cases hd : command.edited? settings s.document s.selected source with
    | none =>
      rw [hd] at hi
      exact h.selected_lt hi
    | some d =>
      rw [hd] at hi
      exact Command.selection_lt hd h.selected_lt hi
  · cases command with
    | select index => exact select_lt s index hi
    | undo =>
      cases hpast : s.past with
      | nil =>
        rw [run_undo_nil settings s source hpast] at hi ⊢
        exact h.selected_lt hi
      | cons d past =>
        rw [run_undo_cons settings s source hpast] at hi ⊢
        exact select_lt _ _ hi
    | redo =>
      cases hfuture : s.future with
      | nil =>
        rw [run_redo_nil settings s source hfuture] at hi ⊢
        exact h.selected_lt hi
      | cons d future =>
        rw [run_redo_cons settings s source hfuture] at hi ⊢
        exact select_lt _ _ hi
    | _ => exact absurd rfl hedit

theorem sound_run (h : s.Sound) (command : Command) :
    (s.run settings command source).session.Sound where
  selected_lt := selected_lt_run h command
  documents_sound :=
    forall_documents_run (fun hd ⟨_, _, hmakes⟩ => Edit.sound_apply hd hmakes) h.documents_sound
      command

theorem sound_after (h : s.Sound) (commands : List Command) :
    (after settings s source commands).1.Sound := by
  induction commands generalizing s source with
  | nil => exact h
  | cons command commands ih => exact ih (sound_run h command)

/-- Both stacks together keep to the limit. -/
theorem length_history_le (settings : Settings) (d : Document) (limit : Int) (source : IdSource)
    (commands : List Command) :
    let s := (after settings (start d limit) source commands).1
    (s.past.length + s.future.length : Int) ≤ max limit 0 := by
  intro s
  have hshows : s.Shows _ := shows_follow settings (shows_start d limit) source commands
  have hlength := hshows.length_versions
  have hle := Timeline.length_le
    ((Timeline.start limit d).follow settings (start d limit) source commands)
  omega

/-- Documents that are read, stored, new or empty are sound, and a session that begins with a sound
document stays in order whatever it is asked: its selection points into the document, its history
keeps to the limit, and all its documents are sound. -/
theorem reachable_sound (settings : Settings) :
    (∀ v source d rest, Document.read settings v source = (.ok d, rest) → d.Sound) ∧
    (∀ v source d, (Document.load settings v source).result = .ok d → d.Sound) ∧
    (∀ year theme source d rest,
      Document.starter settings year theme source = (.ok d, rest) → d.Sound) ∧
    Document.empty.Sound ∧
    ∀ (d : Document) (limit : Int) (source : IdSource) (commands : List Command), d.Sound →
      let s := (after settings (start d limit) source commands).1
      (∀ i, s.selected = some i →
        ∃ block, s.document.blocks[i]? = some block ∧ s.selectedBlock? = some block) ∧
      (s.past.length + s.future.length : Int) ≤ max limit 0 ∧
      ∀ e ∈ s.document :: (s.past ++ s.future),
        e.ids.Nodup ∧ (∀ id ∈ e.ids, id ≠ "") ∧
        (∀ (i : Nat) id, e.ids[i]? = some id → e.indexOf? id = some i) ∧
        (∀ block ∈ e.blocks, Kind.isName (.str block.kind.name) = .ok true) ∧
        480 ≤ e.theme.contentWidth.val ∧ e.theme.contentWidth.val ≤ 700 ∧
        0 ≤ e.theme.borderRadius.val ∧ e.theme.borderRadius.val ≤ 24 := by
  refine ⟨fun _ _ _ _ => Document.sound_read, fun _ _ _ => Document.sound_load,
    fun _ _ _ _ _ => Document.sound_starter, Document.sound_empty, ?_⟩
  intro d limit source commands hd s
  have hsound : s.Sound := sound_after (sound_start hd limit) commands
  refine ⟨fun i => hsound.selectedBlock?_eq_some,
    length_history_le settings d limit source commands, fun e he => ?_⟩
  have hdocument := hsound.documents_sound e he
  exact ⟨hdocument.nodup, fun id hid heq => hdocument.ne_empty (heq ▸ hid),
    fun i id => hdocument.indexOf?_ids, fun block _ => block.kind.isName_name,
    e.theme.contentWidth.low_le, e.theme.contentWidth.le_high,
    e.theme.borderRadius.low_le, e.theme.borderRadius.le_high⟩

end Session
end MailTemplate
