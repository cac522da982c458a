import MailTemplate.Html.Page
import MailTemplate.Proofs.Placeholder.Occurrences

/-!
# Fragments that seal their values

Values stand in HTML without escapes. What keeps a placeholder from being made or broken where two
values meet is the markup between them.

* `Html.placeholders`: the placeholders in the values of a fragment;
* `Html.Sealed`: fragments of which these are all placeholders, whatever stands around them;
* `Html.isSealed` and `Sealed.of_isSealed`: a check of a fragment, piece by piece;
* `not_straddles_of_occurrences_eq`: no placeholder straddles two pieces of such a fragment.
-/

namespace MailTemplate
namespace Html

open Placeholder

/-! ### Texts and values -/

@[simp] theorem Piece.text_markup (m : String) : (Piece.markup m).text = m := rfl

@[simp] theorem Piece.text_value (v : String) : (Piece.value v).text = v := rfl

/-- The characters of a fragment. -/
def chars (html : Html) : List Char := html.toText.toList

@[simp] theorem chars_nil : chars [] = [] := by simp [chars, toText]

@[simp] theorem chars_cons (p : Piece) (html : Html) :
    chars (p :: html) = p.text.toList ++ html.chars := by
  simp [chars, toText]

@[simp] theorem chars_append (g h : Html) : chars (g ++ h) = g.chars ++ h.chars := by
  simp [chars, toText]

@[simp] theorem values_append (g h : Html) : values (g ++ h) = g.values ++ h.values := by
  simp [values]

/-- The placeholders in the values of a fragment, in order. -/
def placeholders (html : Html) : List String :=
  html.values.flatMap fun v => occurrences v.toList

@[simp] theorem placeholders_nil : placeholders [] = [] := rfl

@[simp] theorem placeholders_markup (m : String) (html : Html) :
    placeholders (.markup m :: html) = html.placeholders := rfl

@[simp] theorem placeholders_value (v : String) (html : Html) :
    placeholders (.value v :: html) = occurrences v.toList ++ html.placeholders := rfl

@[simp] theorem placeholders_append (g h : Html) :
    placeholders (g ++ h) = g.placeholders ++ h.placeholders := by
  simp [placeholders]

/-! ### Sealed fragments -/

/-- Between any two texts a fragment adds the placeholders in its values and no others. -/
def Sealed (html : Html) : Prop :=
  ∀ a b, occurrences (a ++ (html.chars ++ b)) =
    occurrences a ++ (html.placeholders ++ occurrences b)

namespace Sealed

variable {g h : Html}

theorem wall {m : String} (hm : isWall m.toList = true) : Sealed [.markup m] := by
  intro a b
  simpa using occurrences_wall hm a b

theorem append (hg : Sealed g) (hh : Sealed h) : Sealed (g ++ h) := by
  intro a b
  rw [chars_append, List.append_assoc, hg, placeholders_append, List.append_assoc]
  congr 2
  exact hh [] b

/-- A value is sealed by what stands before and behind it. -/
theorem value (hg : Sealed g) (v : String) (hh : Sealed h) : Sealed (g ++ .value v :: h) := by
  intro a b
  rw [chars_append, chars_cons, List.append_assoc, List.append_assoc, hg, hh,
    placeholders_append, placeholders_value, List.append_assoc, List.append_assoc]
  rfl

theorem plain_cons {m : String} (hm : isPlain m.toList = true) (hh : Sealed h) :
    Sealed (.markup m :: h) := by
  intro a b
  rw [chars_cons, Piece.text_markup, List.append_assoc, ← List.append_assoc a, hh,
    occurrences_append_right hm, placeholders_markup]

theorem append_plain (hg : Sealed g) {m : String} (hm : isPlain m.toList = true) :
    Sealed (g ++ [.markup m]) := by
  intro a b
  rw [chars_append, List.append_assoc, hg, chars_cons, chars_nil, List.append_nil,
    Piece.text_markup, occurrences_append_left (opening_not_mem_of_isPlain hm), placeholders_append,
    placeholders_markup, placeholders_nil, List.append_nil]

theorem append_flatMap {α : Type} (hg : Sealed g) {f : α → Html} (hf : ∀ a, Sealed (f a))
    (l : List α) : Sealed (g ++ l.flatMap f) := by
  induction l generalizing g with
  | nil => rwa [List.flatMap_nil, List.append_nil]
  | cons a l ih =>
    rw [List.flatMap_cons, ← List.append_assoc]
    exact ih (hg.append (hf a))

end Sealed

/-! ### A check by pieces -/

/-- Whether every value of a fragment stands between walls. The flag tells whether there has been
a wall since the last value. -/
def isSealed (walled : Bool) : Html → Bool
  | [] => walled
  | .markup m :: html => isPlain m.toList && isSealed (walled || isWall m.toList) html
  | .value _ :: html => walled && isSealed false html

/-- A wall before a fragment can only help. -/
theorem isSealed_of_false {html : Html} (h : isSealed false html = true) (walled : Bool) :
    isSealed walled html = true := by
  induction html generalizing walled with
  | nil => contradiction
  | cons p html ih =>
    cases p with
    | markup m =>
      obtain ⟨hm, hrest⟩ := Bool.and_eq_true_iff.mp h
      rw [isSealed, hm, Bool.true_and]
      cases hwall : isWall m.toList with
      | true =>
        rw [hwall, Bool.false_or] at hrest
        rwa [Bool.or_true]
      | false =>
        rw [hwall] at hrest
        exact ih hrest _
    | value v => contradiction

/-- A text without braces may be put in anywhere. -/
theorem isSealed_insert {walled : Bool} {g h : Html} {m : String} (hm : isPlain m.toList = true)
    (hgh : isSealed walled (g ++ h) = true) : isSealed walled (g ++ .markup m :: h) = true := by
  induction g generalizing walled with
  | nil =>
    rw [List.nil_append, isSealed, hm, Bool.true_and]
    cases walled with
    | true => exact hgh
    | false => exact isSealed_of_false hgh _
  | cons p g ih =>
    cases p with
    | markup l =>
      obtain ⟨hl, hrest⟩ := Bool.and_eq_true_iff.mp hgh
      exact Bool.and_eq_true_iff.mpr ⟨hl, ih hrest⟩
    | value v =>
      obtain ⟨hv, hrest⟩ := Bool.and_eq_true_iff.mp hgh
      exact Bool.and_eq_true_iff.mpr ⟨hv, ih hrest⟩

/-- What has been read so far: sealed if there has been a wall since the last value, and otherwise
sealed by whatever sealed fragment comes next. -/
def ReadyFor (walled : Bool) (g : Html) : Prop :=
  if walled then Sealed g else ∀ h, Sealed h → Sealed (g ++ h)

theorem ReadyFor.markup {walled : Bool} {g : Html} (hg : ReadyFor walled g) {m : String}
    (hm : isPlain m.toList = true) :
    ReadyFor (walled || isWall m.toList) (g ++ [.markup m]) := by
  cases walled with
  | true => exact Sealed.append_plain hg hm
  | false =>
    rw [Bool.false_or]
    cases hwall : isWall m.toList with
    | true => exact hg _ (Sealed.wall hwall)
    | false =>
      -- still no wall: the piece goes over to what comes next
      intro h hh
      rw [List.append_assoc]
      exact hg _ (Sealed.plain_cons hm hh)

theorem ReadyFor.value {g : Html} (hg : ReadyFor true g) (v : String) :
    ReadyFor false (g ++ [.value v]) := by
  intro h hh
  rw [List.append_assoc]
  exact Sealed.value hg v hh

theorem ReadyFor.append_of_isSealed {walled : Bool} {g h : Html} (hg : ReadyFor walled g)
    (hh : isSealed walled h = true) : Sealed (g ++ h) := by
  induction h generalizing walled g with
  | nil =>
    rw [isSealed] at hh
    subst hh
    rw [List.append_nil]
    exact hg
  | cons p h ih =>
    rw [List.append_cons]
    cases p with
    | markup m =>
      obtain ⟨hm, hrest⟩ := Bool.and_eq_true_iff.mp hh
      exact ih (hg.markup hm) hrest
    | value v =>
      obtain ⟨rfl, hrest⟩ := Bool.and_eq_true_iff.mp hh
      exact ih (hg.value v) hrest

/-- A fragment that passes the check is sealed. -/
theorem Sealed.of_isSealed {html : Html} (h : isSealed false html = true) : Sealed html := by
  have hstart : ReadyFor false [] := fun _ hh => hh
  exact hstart.append_of_isSealed h

/-- A sealed fragment on its own has the placeholders in its values. -/
theorem Sealed.occurrences_chars {html : Html} (h : Sealed html) :
    occurrences html.chars = html.placeholders := by
  simpa [occurrences] using h [] []

/-! ### Seams -/

theorem length_placeholders_le (html : Html) :
    html.placeholders.length ≤ (occurrences html.chars).length := by
  induction html with
  | nil => exact Nat.zero_le _
  | cons p html ih =>
    have hle := length_occurrences_le p.text.toList (chars html)
    rw [chars_cons]
    cases p with
    | markup m =>
      rw [placeholders_markup]
      omega
    | value v =>
      rw [placeholders_value, List.length_append]
      rw [Piece.text_value] at hle ⊢
      omega

/-- Where the placeholders of a fragment are those in its values, none of them straddles a seam
between two of its pieces. -/
theorem not_straddles_of_occurrences_eq {g h : Html}
    (heq : occurrences (chars (g ++ h)) = placeholders (g ++ h)) :
    ¬ Straddles g.chars h.chars := by
  intro hs
  -- a placeholder across the seam would be one more than the values have
  have hlt := length_occurrences_lt_of_straddles hs
  have hg := length_placeholders_le g
  have hh := length_placeholders_le h
  rw [← chars_append, heq, placeholders_append, List.length_append] at hlt
  omega

end Html
end MailTemplate
