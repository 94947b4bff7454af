import Mathlib.Data.List.Basic
import LiveFind.Text.Lowercase

/-!
# Lower case in context

Lowering a text lowers its pieces one after the other, each where it stands: `lowerBetween` is the
lower case of a piece between two others. All that a piece takes from its surroundings is the form
of each `Σ`, so a piece has the same lower case in two surroundings if and only if each of its `Σ`
has the same form in both (`lowerBetween_eq_iff`).

A character that is neither cased nor case-ignorable keeps what stands before it and what comes
after it apart: no `Σ` looks past it, so the two sides are lowered as if they stood alone
(`lowercase_append_cons`). The blank is one of these characters, and stays as it is, so texts may be
joined with blanks first and lowered then, or the other way round (`lowercase_intercalate`).
-/

namespace LiveFind.Text

/-- The lower case of a piece of a text that stands between `before`, which is held in reverse, and
`after`. -/
def lowerBetween (before after : List Char) : List Char → List Char
  | [] => []
  | c :: rest =>
    (if c = 'Σ' then [lowerSigma before (rest ++ after)] else lowerChar c) ++
      lowerBetween (c :: before) after rest

theorem lowercaseAfter_append (before s after : List Char) : lowercaseAfter before (s ++ after) =
    lowerBetween before after s ++ lowercaseAfter (s.reverse ++ before) after := by
  induction s generalizing before with
  | nil => rfl
  | cons c s ih =>
    rw [List.cons_append, lowercaseAfter, lowerBetween, ih, List.reverse_cons, List.append_assoc,
      List.append_assoc, List.singleton_append]

theorem lowercaseAfter_eq (before s : List Char) :
    lowercaseAfter before s = lowerBetween before [] s := by
  have happend := lowercaseAfter_append before s []
  rw [List.append_nil] at happend
  exact happend.trans (List.append_nil _)

/-- The three pieces of a text are lowered where they stand. -/
theorem lowercase_append_append (before s after : List Char) : lowercase (before ++ s ++ after) =
    lowerBetween [] (s ++ after) before ++ lowerBetween before.reverse after s ++
      lowerBetween (s.reverse ++ before.reverse) [] after := by
  rw [lowercase, List.append_assoc, lowercaseAfter_append, lowercaseAfter_append, List.append_nil,
    lowercaseAfter_eq, List.append_assoc]

/-! ### The forms of `Σ` -/

/-- A character of a list is the first one, or one of the others. -/
theorem forall_cons_eq_append_cons {β : Type} {P : List β → List β → Prop} {a b : β} {s : List β} :
    (∀ u v, a :: s = u ++ b :: v → P u v) ↔
      (a = b → P [] s) ∧ ∀ u v, s = u ++ b :: v → P (a :: u) v := by
  constructor
  · intro h
    exact ⟨fun hab ↦ h [] s (by rw [hab, List.nil_append]),
      fun u v hs ↦ h (a :: u) v (by rw [hs, List.cons_append])⟩
  · rintro ⟨hhead, htail⟩ u v heq
    cases u with
    | nil =>
      obtain ⟨hab, rfl⟩ := List.cons_eq_cons.1 heq
      exact hhead hab
    | cons c u =>
      obtain ⟨rfl, hs⟩ := List.cons_eq_cons.1 heq
      exact htail u v hs

/-- A piece has the same lower case in two surroundings if and only if each of its `Σ` has the same
form in both. -/
theorem lowerBetween_eq_iff {before before' after after' s : List Char} :
    lowerBetween before after s = lowerBetween before' after' s ↔
      ∀ u v, s = u ++ 'Σ' :: v →
        lowerSigma (u.reverse ++ before) (v ++ after) =
          lowerSigma (u.reverse ++ before') (v ++ after') := by
  induction s generalizing before before' with
  | nil => simp [lowerBetween]
  | cons c s ih =>
    rw [forall_cons_eq_append_cons, lowerBetween, lowerBetween]
    simp only [List.reverse_nil, List.nil_append, List.reverse_cons, List.append_assoc,
      List.singleton_append]
    rw [← ih]
    by_cases hc : c = 'Σ'
    · rw [if_pos hc, if_pos hc, List.singleton_append, List.singleton_append, List.cons_eq_cons]
      exact and_congr_left' ⟨fun h _ ↦ h, fun h ↦ h hc⟩
    · rw [if_neg hc, if_neg hc, List.append_cancel_left_eq]
      exact (and_iff_right fun h ↦ absurd h hc).symm

/-- Each `Σ` of a piece has the same form where the piece stands as in the piece alone. -/
def KeepsSigmas (before s after : List Char) : Prop :=
  ∀ u v, s = u ++ 'Σ' :: v →
    lowerSigma (u.reverse ++ before.reverse) (v ++ after) = lowerSigma u.reverse v

/-- A piece is lowered where it stands as it is alone if and only if its `Σ` keep their forms. -/
theorem lowerBetween_eq_lowercase_iff {before s after : List Char} :
    lowerBetween before.reverse after s = lowercase s ↔ KeepsSigmas before s after := by
  rw [lowercase, lowercaseAfter_eq, lowerBetween_eq_iff]
  simp only [List.append_nil]
  exact Iff.rfl

theorem keepsSigmas_of_not_mem {s : List Char} (h : 'Σ' ∉ s) (before after : List Char) :
    KeepsSigmas before s after := by
  rintro u v rfl
  exact absurd (List.mem_append_right u List.mem_cons_self) h

/-! ### Characters that keep texts apart -/

/-- The search for a cased character ends, without success, at one that is neither cased nor
case-ignorable. -/
theorem meetsCased_append_cons {c : Char} (hignorable : isCaseIgnorable c = false)
    (hcased : isCased c = false) (cs rest : List Char) :
    meetsCased (cs ++ c :: rest) = meetsCased cs := by
  rw [meetsCased, meetsCased, List.dropWhile_append,
    List.dropWhile_cons_of_neg (Bool.not_eq_true _ ▸ hignorable)]
  cases cs.dropWhile isCaseIgnorable with
  | nil => exact hcased
  | cons d ds => rfl

/-- What such a character divides is lowered as if the sides stood alone. -/
theorem lowercase_append_cons {c : Char} (hignorable : isCaseIgnorable c = false)
    (hcased : isCased c = false) (hsigma : c ≠ 'Σ') (cs rest : List Char) :
    lowercase (cs ++ c :: rest) = lowercase cs ++ lowerChar c ++ lowercase rest := by
  have hmeets := meetsCased_append_cons hignorable hcased
  have hleft : lowerBetween [] (c :: rest) cs = lowercase cs :=
    (@lowerBetween_eq_lowercase_iff [] cs (c :: rest)).2 fun u v _ ↦ by
      rw [List.reverse_nil, List.append_nil, lowerSigma, lowerSigma, hmeets]
  have hright : lowerBetween (c :: cs.reverse) [] rest = lowercase rest := by
    rw [← List.reverse_concat, lowerBetween_eq_lowercase_iff]
    intro u v _
    rw [List.append_nil, List.reverse_concat, lowerSigma, lowerSigma, hmeets]
  rw [lowercase, lowercaseAfter_append, hleft, List.append_nil, lowercaseAfter, if_neg hsigma,
    lowercaseAfter_eq, hright, List.append_assoc]

theorem lowercase_append_blank (cs rest : List Char) :
    lowercase (cs ++ ' ' :: rest) = lowercase cs ++ ' ' :: lowercase rest := by
  have hblank : lowerChar ' ' = [' '] := by decide +kernel
  rw [lowercase_append_cons (by decide +kernel) (by decide +kernel) (by decide), hblank,
    List.append_assoc, List.singleton_append]

/-- The lower case of texts joined with blanks is that of each of them, joined with blanks. -/
theorem lowercase_intercalate (texts : List (List Char)) :
    lowercase ([' '].intercalate texts) = [' '].intercalate (texts.map lowercase) := by
  induction texts with
  | nil => rfl
  | cons cs texts ih =>
    cases texts with
    | nil => rw [List.map_singleton, List.intercalate_singleton, List.intercalate_singleton]
    | cons ds texts =>
      rw [List.map_cons] at ih
      rw [List.map_cons, List.map_cons, List.intercalate_cons_cons, List.intercalate_cons_cons,
        ← ih, List.append_assoc, List.singleton_append, lowercase_append_blank, List.append_assoc,
        List.singleton_append]

end LiveFind.Text
