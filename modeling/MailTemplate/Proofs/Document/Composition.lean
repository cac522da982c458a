import Mathlib.Data.List.Forall2
import MailTemplate.Proofs.Document.Update
import MailTemplate.Proofs.Override

/-!
# Changes that follow each other

Two updates of a document, or two changes of its theme, are one: the changes of both, of which the
later ones count. Changes that do not meet can be made in either order.

* `Attributes.revise_append` and `Theme.revise_append`: attributes and themes that are revised twice;
* `Attributes.Same` and `Document.Same`: equality up to the order of the members beside the declared
  fields, an order that a dictionary does not have;
* `Document.update_append`, `update_comm` and `restyle_append`: documents that are changed twice;
* `Document.changes_compose`: all these laws of the documents in use.
-/

namespace MailTemplate

/-! ### Attributes -/

namespace Attributes

variable {a b c : Attributes} {p q : Json.Object}

/-- The same content, and the same value under every further name. -/
structure Same (a b : Attributes) : Prop where
  content : a.content = b.content
  extra : ∀ name, a.extra.get? name = b.extra.get? name

theorem Same.refl (a : Attributes) : a.Same a := ⟨rfl, fun _ => rfl⟩

theorem revise_override (a : Attributes) (p q : Json.Object) :
    a.revise (Record.override a.content.kind.fields p q) = a.revise (p ++ q) := by
  simp only [revise, Record.merge_toWire_override a.content.kind.unambiguous]

theorem isRead_revise (h : a.revise p = .ok b) : b.IsRead := ⟨_, _, _, h⟩

/-- A content that is made of a record is revised like that record. -/
theorem revise_ofRecord_eq_ok {kind : Kind} {old : Record kind.fields} {extra : Json.Object}
    (h : IsRead ⟨.ofRecord kind old, extra⟩) :
    revise ⟨.ofRecord kind old, extra⟩ p = .ok b ↔ ∃ new, Record.Revised p kind.fields old new ∧
      b = ⟨.ofRecord kind new, extra.merge (Record.undeclared kind.fields p)⟩ := by
  cases kind <;> exact revise_eq_ok h

theorem revise_append (h : a.IsRead) (hp : a.revise p = .ok b) :
    a.revise (p ++ q) = .ok c ↔ b.revise q = .ok c := by
  have hb := isRead_revise hp
  obtain ⟨middle, hmiddle, rfl⟩ := (revise_eq_ok h).mp hp
  rw [revise_eq_ok h, revise_ofRecord_eq_ok hb]
  refine exists_congr fun new => and_congr (Record.revised_append hmiddle) ?_
  rw [Record.undeclared_append, Json.Object.merge_append]

theorem exists_revise_append (h : a.IsRead) (hp : a.revise p = .ok b) (hq : a.revise q = .ok c) :
    ∃ both, a.revise (p ++ q) = .ok both := by
  obtain ⟨_, hp, -⟩ := (revise_eq_ok h).mp hp
  obtain ⟨_, hq, -⟩ := (revise_eq_ok h).mp hq
  obtain ⟨record, hrecord⟩ := Record.exists_revised_append hp hq
  exact ⟨_, (revise_eq_ok h).mpr ⟨record, hrecord, rfl⟩⟩

/-- Changes that share no name may be made in either order. -/
theorem same_revise_append (h : a.IsRead) (hseparate : Record.Separate a.content.kind.fields p q)
    (hb : a.revise (p ++ q) = .ok b) (hc : a.revise (q ++ p) = .ok c) : b.Same c := by
  obtain ⟨record, hrecord, rfl⟩ := (revise_eq_ok h).mp hb
  have hswapped := (hseparate.revised_comm a.content.kind.unambiguous).mp hrecord
  have hrevise := (revise_eq_ok h).mpr ⟨record, hswapped, rfl⟩
  obtain rfl := Except.ok.inj (hrevise.symm.trans hc)
  refine ⟨rfl, fun name => ?_⟩
  rw [Record.get?_merge_undeclared, Record.get?_merge_undeclared]
  split
  · rename_i hname
    rw [hseparate.last?_undeclared hname]
  · rfl

end Attributes

/-! ### Themes -/

namespace Theme

variable {t u v : Theme} {p q : Json.Object}

theorem unambiguous : Record.Unambiguous fields := Record.unambiguous_of_pairwise (by decide)

theorem revise_override (t : Theme) (p q : Json.Object) :
    t.revise (Record.override fields p q) = t.revise (p ++ q) := by
  rw [revise, revise, Record.merge_toWire_override unambiguous]

theorem revise_eq_ok : t.revise p = .ok u ↔ Record.Revised p fields t.toRecord u.toRecord := by
  have hnodup : (fields.map (·.name.wire)).Nodup := by decide
  have hread (record : Record fields) :=
    Record.read_merge_toObject hnodup (fun f => Record.last?_toWire unambiguous p)
      standard.toRecord t.toRecord record [] (fun _ _ => List.not_mem_nil) []
  simp only [List.nil_append, List.append_nil] at hread
  rw [revise, ofObject, map_eq_ok, toObject]
  simp only [hread]
  constructor
  · rintro ⟨record, hrecord, rfl⟩
    exact hrecord
  · exact fun hrecord => ⟨u.toRecord, hrecord, rfl⟩

theorem revise_append (hp : t.revise p = .ok u) :
    t.revise (p ++ q) = .ok v ↔ u.revise q = .ok v := by
  rw [revise_eq_ok, revise_eq_ok, Record.revised_append (revise_eq_ok.mp hp)]

theorem exists_revise_append (hp : t.revise p = .ok u) (hq : t.revise q = .ok v) :
    ∃ both, t.revise (p ++ q) = .ok both := by
  obtain ⟨record, hrecord⟩ :=
    Record.exists_revised_append (revise_eq_ok.mp hp) (revise_eq_ok.mp hq)
  exact ⟨ofRecord record, revise_eq_ok.mpr hrecord⟩

theorem revise_append_comm (h : Record.Separate fields p q) :
    t.revise (p ++ q) = .ok u ↔ t.revise (q ++ p) = .ok u := by
  rw [revise_eq_ok, revise_eq_ok, h.revised_comm unambiguous]

end Theme

/-! ### Documents -/

namespace Document

variable {d e f g : Document} {x y : Block} {p q : Json.Object}

/-- The same theme, and the same blocks up to the order of the members beside their declared
fields. -/
def Same (d e : Document) : Prop :=
  d.theme = e.theme ∧
    List.Forall₂ (fun x y => x.id = y.id ∧ x.attributes.Same y.attributes) d.blocks e.blocks

theorem same_set (d : Document) (i : Nat) {x y : Block} (hid : x.id = y.id)
    (h : x.attributes.Same y.attributes) :
    Same { d with blocks := d.blocks.set i x } { d with blocks := d.blocks.set i y } := by
  refine ⟨rfl, ?_⟩
  induction d.blocks generalizing i with
  | nil => exact .nil
  | cons z blocks ih =>
    have hrefl (blocks : List Block) :
        List.Forall₂ (fun x y => x.id = y.id ∧ x.attributes.Same y.attributes) blocks blocks :=
      List.forall₂_same.mpr fun z _ => ⟨rfl, .refl z.attributes⟩
    cases i with
    | zero => exact .cons ⟨hid, h⟩ (hrefl blocks)
    | succ i => exact .cons ⟨rfl, .refl z.attributes⟩ (ih i)

/-- The block of an id is replaced, if its attributes can be revised. -/
theorem update_eq_ok_iff {i : Nat} (h : d.Sound) (hx : d.blocks[i]? = some x) :
    d.update (.str x.id) (.obj p) = .ok e ↔ ∃ a, x.attributes.revise p = .ok a ∧
      e = { d with blocks := d.blocks.set i { x with attributes := a } } := by
  rw [update_of_getElem? h hx, map_eq_ok]
  exact exists_congr fun a => and_congr Checked.orInvalid_eq_ok eq_comm

section Update

variable (h : d.Reachable)
include h

theorem update_append (hx : x ∈ d.blocks) (hp : d.update (.str x.id) (.obj p) = .ok e) :
    d.update (.str x.id) (.obj (p ++ q)) = .ok f ↔ e.update (.str x.id) (.obj q) = .ok f := by
  have hsound := h.sound.update hp
  obtain ⟨i, hblock⟩ := List.mem_iff_getElem?.mp hx
  obtain ⟨a, ha, rfl⟩ := (update_eq_ok_iff h.sound hblock).mp hp
  -- the block stands where it stood, and it is replaced once more
  have hnext : (d.blocks.set i { x with attributes := a })[i]? = some { x with attributes := a } :=
    List.getElem?_set_self (List.getElem?_eq_some_iff.mp hblock).1
  rw [update_eq_ok_iff h.sound hblock]
  refine Iff.trans ?_ (update_eq_ok_iff hsound hnext).symm
  simp only [List.set_set]
  exact exists_congr fun b => and_congr_left fun _ => Attributes.revise_append (h.isRead x hx) ha

theorem exists_update_append (hx : x ∈ d.blocks) (hp : d.update (.str x.id) (.obj p) = .ok e)
    (hq : d.update (.str x.id) (.obj q) = .ok f) :
    ∃ both, d.update (.str x.id) (.obj (p ++ q)) = .ok both := by
  obtain ⟨i, hblock⟩ := List.mem_iff_getElem?.mp hx
  obtain ⟨a, ha, -⟩ := (update_eq_ok_iff h.sound hblock).mp hp
  obtain ⟨b, hb, -⟩ := (update_eq_ok_iff h.sound hblock).mp hq
  obtain ⟨c, hc⟩ := Attributes.exists_revise_append (h.isRead x hx) ha hb
  exact ⟨_, (update_eq_ok_iff h.sound hblock).mpr ⟨c, hc, rfl⟩⟩

theorem update_override (hx : x ∈ d.blocks) :
    d.update (.str x.id) (.obj (Record.override x.kind.fields p q)) =
      d.update (.str x.id) (.obj (p ++ q)) := by
  obtain ⟨i, hblock⟩ := List.mem_iff_getElem?.mp hx
  rw [update_of_getElem? h.sound hblock, update_of_getElem? h.sound hblock, Block.kind,
    Attributes.revise_override]

/-- Of changes that share no name either may come first. -/
theorem same_update_append (hx : x ∈ d.blocks) (hseparate : Record.Separate x.kind.fields p q)
    (hf : d.update (.str x.id) (.obj (p ++ q)) = .ok f)
    (hg : d.update (.str x.id) (.obj (q ++ p)) = .ok g) : f.Same g := by
  have hread := h.isRead x hx
  obtain ⟨i, hblock⟩ := List.mem_iff_getElem?.mp hx
  obtain ⟨a, ha, rfl⟩ := (update_eq_ok_iff h.sound hblock).mp hf
  obtain ⟨b, hb, rfl⟩ := (update_eq_ok_iff h.sound hblock).mp hg
  exact same_set d i rfl (Attributes.same_revise_append hread hseparate ha hb)

/-- Updates of two blocks do not meet. -/
theorem update_comm (hx : x ∈ d.blocks) (hy : y ∈ d.blocks) (hne : x.id ≠ y.id)
    (hp : d.update (.str x.id) (.obj p) = .ok e) (hq : d.update (.str y.id) (.obj q) = .ok f) :
    ∃ g, e.update (.str y.id) (.obj q) = .ok g ∧ f.update (.str x.id) (.obj p) = .ok g := by
  have hsoundx := h.sound.update hp
  have hsoundy := h.sound.update hq
  obtain ⟨i, hi⟩ := List.mem_iff_getElem?.mp hx
  obtain ⟨j, hj⟩ := List.mem_iff_getElem?.mp hy
  obtain ⟨a, ha, rfl⟩ := (update_eq_ok_iff h.sound hi).mp hp
  obtain ⟨b, hb, rfl⟩ := (update_eq_ok_iff h.sound hj).mp hq
  have hij : i ≠ j := by
    rintro rfl
    rw [hi] at hj
    exact hne (congrArg Block.id (Option.some.inj hj))
  -- each block is where it was after the update of the other
  have hyx : (d.blocks.set i { x with attributes := a })[j]? = some y := by
    rw [List.getElem?_set_ne hij, hj]
  have hxy : (d.blocks.set j { y with attributes := b })[i]? = some x := by
    rw [List.getElem?_set_ne hij.symm, hi]
  refine ⟨_, (update_eq_ok_iff hsoundx hyx).mpr ⟨b, hb, rfl⟩,
    (update_eq_ok_iff hsoundy hxy).mpr ⟨a, ha, ?_⟩⟩
  rw [List.set_comm _ _ hij]

/-- An update and a change of the theme do not meet. -/
theorem update_restyle_comm (hx : x ∈ d.blocks) (hp : d.update (.str x.id) (.obj p) = .ok e)
    (hq : d.restyle q = .ok f) :
    ∃ g, e.restyle q = .ok g ∧ f.update (.str x.id) (.obj p) = .ok g := by
  have hsound := h.sound.restyle hq
  obtain ⟨i, hi⟩ := List.mem_iff_getElem?.mp hx
  obtain ⟨a, ha, rfl⟩ := (update_eq_ok_iff h.sound hi).mp hp
  obtain ⟨t, ht, rfl⟩ := restyle_eq_ok hq
  refine ⟨_, ?_, (update_eq_ok_iff hsound hi).mpr ⟨a, ha, rfl⟩⟩
  rw [restyle, ht]
  rfl

end Update

theorem restyle_eq_ok_iff :
    d.restyle p = .ok e ↔ ∃ t, d.theme.revise p = .ok t ∧ e = { d with theme := t } := by
  rw [restyle, map_eq_ok]
  exact exists_congr fun t => and_congr Checked.orInvalid_eq_ok eq_comm

theorem restyle_append (hp : d.restyle p = .ok e) :
    d.restyle (p ++ q) = .ok f ↔ e.restyle q = .ok f := by
  obtain ⟨t, ht, rfl⟩ := restyle_eq_ok hp
  rw [restyle_eq_ok_iff, restyle_eq_ok_iff]
  exact exists_congr fun u => and_congr_left fun _ => Theme.revise_append ht

theorem exists_restyle_append (hp : d.restyle p = .ok e) (hq : d.restyle q = .ok f) :
    ∃ both, d.restyle (p ++ q) = .ok both := by
  obtain ⟨t, ht, -⟩ := restyle_eq_ok hp
  obtain ⟨u, hu, -⟩ := restyle_eq_ok hq
  obtain ⟨v, hv⟩ := Theme.exists_revise_append ht hu
  exact ⟨_, restyle_eq_ok_iff.mpr ⟨v, hv, rfl⟩⟩

theorem restyle_append_comm (h : Record.Separate Theme.fields p q) :
    d.restyle (p ++ q) = .ok e ↔ d.restyle (q ++ p) = .ok e := by
  rw [restyle_eq_ok_iff, restyle_eq_ok_iff]
  exact exists_congr fun t => and_congr_left fun _ => Theme.revise_append_comm h

theorem restyle_override (d : Document) (p q : Json.Object) :
    d.restyle (Record.override Theme.fields p q) = d.restyle (p ++ q) := by
  rw [restyle, restyle, Theme.revise_override]

/-- Two updates that are valid for a document in use are valid one after the other. Updates of two
blocks give the same document in either order, and so do, up to the order of undeclared members, two
updates of one block that share no name on the wire. Two updates of one block are the single update by
the first changes, overridden name by name by the second. Changes of the theme obey the same two laws,
and they give the same document before an update and after it. -/
theorem changes_compose (h : d.Reachable) :
    (∀ x ∈ d.blocks, ∀ y ∈ d.blocks, ∀ p q e f,
      d.update (.str x.id) (.obj p) = .ok e → d.update (.str y.id) (.obj q) = .ok f →
      (x.id ≠ y.id →
        ∃ g, e.update (.str y.id) (.obj q) = .ok g ∧ f.update (.str x.id) (.obj p) = .ok g) ∧
      (x.id = y.id → Record.Separate x.kind.fields p q →
        ∃ g g', e.update (.str y.id) (.obj q) = .ok g ∧ f.update (.str x.id) (.obj p) = .ok g' ∧
          g.Same g') ∧
      (x.id = y.id →
        ∃ g, e.update (.str y.id) (.obj q) = .ok g ∧
          d.update (.str x.id) (.obj (Record.override x.kind.fields p q)) = .ok g)) ∧
    (∀ p q e f, d.restyle p = .ok e → d.restyle q = .ok f →
      (Record.Separate Theme.fields p q → ∃ g, e.restyle q = .ok g ∧ f.restyle p = .ok g) ∧
      ∃ g, e.restyle q = .ok g ∧ d.restyle (Record.override Theme.fields p q) = .ok g) ∧
    ∀ x ∈ d.blocks, ∀ p q e f, d.update (.str x.id) (.obj p) = .ok e → d.restyle q = .ok f →
      ∃ g, e.restyle q = .ok g ∧ f.update (.str x.id) (.obj p) = .ok g := by
  refine ⟨fun x hx y hy p q e f hp hq => ⟨fun hne => update_comm h hx hy hne hp hq, ?_, ?_⟩,
    fun p q e f hp hq => ⟨fun hseparate => ?_, ?_⟩,
    fun x hx p q e f hp hq => update_restyle_comm h hx hp hq⟩
  · intro hid hseparate
    rw [← hid] at hq ⊢
    obtain ⟨g, hg⟩ := exists_update_append h hx hp hq
    obtain ⟨g', hg'⟩ := exists_update_append h hx hq hp
    exact ⟨g, g', (update_append h hx hp).mp hg, (update_append h hx hq).mp hg',
      same_update_append h hx hseparate hg hg'⟩
  · intro hid
    rw [← hid] at hq ⊢
    obtain ⟨g, hg⟩ := exists_update_append h hx hp hq
    exact ⟨g, (update_append h hx hp).mp hg, by rw [update_override h hx, hg]⟩
  · obtain ⟨g, hg⟩ := exists_restyle_append hp hq
    have hswapped := (restyle_append_comm hseparate).mp hg
    exact ⟨g, (restyle_append hp).mp hg, (restyle_append hq).mp hswapped⟩
  · obtain ⟨g, hg⟩ := exists_restyle_append hp hq
    exact ⟨g, (restyle_append hp).mp hg, by rw [restyle_override, hg]⟩

/-- A size under its second name and a color do not meet, and each brings a further member along. The
two documents list these members in different orders. -/
theorem changes_compose_size_color :
    let settings : Settings := ⟨2024, "", "", ""⟩
    let v : Json := .obj [("blocks", .arr [.obj [("id", .str "p"), ("type", .str "paragraph"),
      ("content", .obj [("font_size", .arr []), ("fontSize", .int 18)])]])]
    let made (color : String) (size : Pixels) (extra : Json.Object) : Document :=
      ⟨[⟨"p", ⟨.paragraph "Your text here..." color size, ("font_size", .arr []) :: extra⟩⟩],
        .standard⟩
    let d := made "#475569" (.int 18) []
    let e := made "#475569" (.int 1) [("tag", .int 1)]
    let f := made "#000" (.int 18) [("mark", .null)]
    let p : Json.Object := [("font_size", .bool true), ("tag", .int 1)]
    let q : Json.Object := [("color", .str "#000"), ("mark", .null)]
    read settings v ⟨[], 0⟩ = (.ok d, ⟨[], 0⟩) ∧
      d.update (.str "p") (.obj p) = .ok e ∧ d.update (.str "p") (.obj q) = .ok f ∧
      Record.Separate Kind.paragraph.fields p q ∧
      (∃ g g', e.update (.str "p") (.obj q) = .ok g ∧ f.update (.str "p") (.obj p) = .ok g' ∧
        g.Same g' ∧ g ≠ g') ∧
      ∃ g, e.update (.str "p") (.obj q) = .ok g ∧
        d.update (.str "p") (.obj (Record.override Kind.paragraph.fields p q)) = .ok g := by
  intro settings v made d e f p q
  have hread : read settings v ⟨[], 0⟩ = (.ok d, ⟨[], 0⟩) := by rfl
  have hp : d.update (.str "p") (.obj p) = .ok e := by rfl
  have hq : d.update (.str "p") (.obj q) = .ok f := by rfl
  have hseparate : Record.Separate Kind.paragraph.fields p q := by decide
  have hpq : e.update (.str "p") (.obj q) =
      .ok (made "#000" (.int 1) [("tag", .int 1), ("mark", .null)]) := by rfl
  have hqp : f.update (.str "p") (.obj p) =
      .ok (made "#000" (.int 1) [("mark", .null), ("tag", .int 1)]) := by rfl
  have hblock : (⟨"p", ⟨.paragraph "Your text here..." "#475569" (.int 18),
      [("font_size", .arr [])]⟩⟩ : Block) ∈ d.blocks := List.mem_singleton_self _
  obtain ⟨-, hcomm, hoverride⟩ :=
    (changes_compose (.read hread)).1 _ hblock _ hblock p q e f hp hq
  obtain ⟨g, g', hg, hg', hsame⟩ := hcomm rfl hseparate
  refine ⟨hread, hp, hq, hseparate, ⟨g, g', hg, hg', hsame, ?_⟩, hoverride rfl⟩
  rw [← Except.ok.inj (hpq.symm.trans hg), ← Except.ok.inj (hqp.symm.trans hg')]
  decide

end Document
end MailTemplate
