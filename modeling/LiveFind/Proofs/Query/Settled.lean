import LiveFind.Proofs.Text.PlainCase
import LiveFind.Query

/-!
# Settled texts

A character is settled if it stays as it is wherever a text with it is lowered. Lowering gives
settled characters only (`isSettled_of_mem_lowercase`), although one character can become two and
`Σ` looks at neighbours that are lowered as well: neither `Σ` nor `İ` is ever given, and no run of
the lower case table leads to a code point that a run holds. The latter is checked run by run, for
two runs overlap only where both take every second code point and one leads to the odd ones and the
other holds the even ones, or the other way round.

So a text that has been lowered stays as it is, and the query for the text of a query is that query.
-/

namespace LiveFind

namespace Text

/-! ### Runs that keep apart -/

/-- Whether the images of one run are not among the code points that another one holds: they end
before or begin behind it, or the steps of the other pass over them. -/
def CaseRun.misses (r s : CaseRun) : Bool :=
  Nat.blt (r.apply r.last) s.first || Nat.blt s.last r.image ||
    (Nat.beq (r.step % s.step) 0 || Nat.beq r.first r.last) &&
      !Nat.beq (r.image % s.step) (s.first % s.step)

theorem mod_eq_zero_of_holds {r : CaseRun} {n : Nat} (h : r.holds n = true) :
    (n - r.first) % r.step = 0 := by
  simp only [CaseRun.holds, Bool.and_eq_true, decide_eq_true_eq] at h
  exact h.2

theorem holds_apply_of_misses {r s : CaseRun} (hmisses : r.misses s = true) {n : Nat}
    (hn : r.holds n = true) : s.holds (r.apply n) = false := by
  obtain ⟨hfirst, hlast⟩ := le_and_le_of_holds hn
  have hstep := mod_eq_zero_of_holds hn
  refine Bool.eq_false_iff.2 fun himage ↦ ?_
  obtain ⟨hsfirst, hslast⟩ := le_and_le_of_holds himage
  have hsstep := mod_eq_zero_of_holds himage
  simp only [CaseRun.misses, CaseRun.apply, Bool.or_eq_true, Bool.and_eq_true, Bool.not_eq_true',
    Nat.blt_eq, Nat.beq_eq, ← Bool.not_eq_true] at hmisses hsfirst hslast hsstep
  rcases hmisses with (hbefore | hbehind) | ⟨hsteps, hapart⟩
  · omega
  · omega
  · -- modulo the step of `s`, the image is both the first image of `r` and the start of `s`
    have hdvd : s.step ∣ n - r.first := by
      rcases hsteps with hdvd | hsingle
      · exact (Nat.dvd_of_mod_eq_zero hdvd).trans (Nat.dvd_of_mod_eq_zero hstep)
      · rw [show n - r.first = 0 by omega]
        exact Nat.dvd_zero _
    have hleft : r.image ≡ r.image + (n - r.first) [MOD s.step] :=
      (Nat.modEq_iff_dvd' (by omega)).2 (by rwa [Nat.add_sub_cancel_left])
    have hright : s.first ≡ r.image + (n - r.first) [MOD s.step] :=
      (Nat.modEq_iff_dvd' hsfirst).2 (Nat.dvd_of_mod_eq_zero hsstep)
    exact hapart (hleft.trans hright.symm)

/-- The run of the one character whose lower case has two. -/
def dotted : CaseRun := ⟨0x130, 0x130, 1, 0x69⟩

/-- The runs of the lower case table lead neither to a code point that a run holds nor to `İ`. -/
theorem misses_lowerRuns :
    ((dotted :: lowerRuns).all fun s ↦ lowerRuns.all fun r ↦ r.misses s) = true := by
  decide +kernel

/-! ### Settled characters -/

/-- A character that is lowered to itself wherever it stands. -/
def IsSettled (c : Char) : Prop :=
  c ≠ 'Σ' ∧ lowerChar c = [c]

instance (c : Char) : Decidable (IsSettled c) :=
  inferInstanceAs (Decidable (_ ∧ _))

theorem isSettled_of_mapTo_eq {c : Char} (hsigma : c ≠ 'Σ') (hdotted : c ≠ 'İ')
    (hsame : CaseRun.mapTo lowerRuns c.toNat = c.toNat) : IsSettled c :=
  ⟨hsigma, by rw [lowerChar, if_neg hdotted, hsame, Char.ofNat_toNat]⟩

theorem isSettled_of_holds {r : CaseRun} (hr : r ∈ lowerRuns) {n : Nat} (hn : r.holds n = true) :
    IsSettled (Char.ofNat (r.apply n)) := by
  have hmisses : ∀ s ∈ dotted :: lowerRuns, s.holds (r.apply n) = false := fun s hs ↦
    holds_apply_of_misses
      (List.all_eq_true.1 (List.all_eq_true.1 misses_lowerRuns s hs) r hr) hn
  by_cases hvalid : (r.apply n).isValidChar
  · have hnat : (Char.ofNat (r.apply n)).toNat = r.apply n := by
      rw [Char.toNat_ofNat, if_pos hvalid]
    have hne {s : CaseRun} (hs : s ∈ dotted :: lowerRuns) {c : Char}
        (hc : s.holds c.toNat = true) : Char.ofNat (r.apply n) ≠ c := by
      rintro heq
      rw [← heq, hnat, hmisses s hs] at hc
      exact absurd hc Bool.false_ne_true
    refine isSettled_of_mapTo_eq ?_ (hne List.mem_cons_self (by decide)) ?_
    · -- `Σ` is in the run of the Greek capitals behind it
      exact hne (s := ⟨0x3A3, 0x3AB, 1, 0x3C3⟩) (by decide +kernel) (by decide)
    · rw [hnat]
      rcases mapTo_eq_or lowerRuns (r.apply n) with hsame | ⟨s, hs, hholds, -⟩
      · exact hsame
      · rw [hmisses s (List.mem_cons_of_mem _ hs)] at hholds
        exact absurd hholds Bool.false_ne_true
  · rw [Char.ofNat, dif_neg hvalid]
    decide +kernel

/-- Lowering a character gives settled characters, whatever stands around it. -/
theorem isSettled_of_mem_lowered {c d : Char} {before after : List Char}
    (hd : d ∈ if c = 'Σ' then [lowerSigma before after] else lowerChar c) : IsSettled d := by
  split at hd
  · rw [List.mem_singleton.1 hd, lowerSigma]
    split <;> decide +kernel
  · rename_i hsigma
    by_cases hdotted : c = 'İ'
    · rw [lowerChar, if_pos hdotted] at hd
      rcases List.mem_pair.1 hd with rfl | rfl <;> decide +kernel
    · rw [lowerChar, if_neg hdotted, List.mem_singleton] at hd
      rcases mapTo_eq_or lowerRuns c.toNat with hsame | ⟨r, hr, hholds, hmoved⟩
      · rw [hd, hsame, Char.ofNat_toNat]
        exact isSettled_of_mapTo_eq hsigma hdotted hsame
      · rw [hd, hmoved]
        exact isSettled_of_holds hr hholds

/-! ### Settled texts -/

theorem isSettled_of_mem_lowercaseAfter {before cs : List Char} {d : Char}
    (hd : d ∈ lowercaseAfter before cs) : IsSettled d := by
  induction cs generalizing before with
  | nil => exact absurd hd List.not_mem_nil
  | cons c cs ih =>
    rw [lowercaseAfter, List.mem_append] at hd
    exact hd.elim isSettled_of_mem_lowered ih

theorem lowercaseAfter_of_isSettled {cs : List Char} (hcs : ∀ c ∈ cs, IsSettled c)
    (before : List Char) : lowercaseAfter before cs = cs := by
  induction cs generalizing before with
  | nil => rfl
  | cons c cs ih =>
    obtain ⟨⟨hsigma, hlower⟩, hcs⟩ := List.forall_mem_cons.1 hcs
    rw [lowercaseAfter, if_neg hsigma, hlower, ih hcs, List.singleton_append]

/-- A text that has been lowered stays as it is. -/
theorem lowercase_lowercase (cs : List Char) : lowercase (lowercase cs) = lowercase cs :=
  lowercaseAfter_of_isSettled (fun _ ↦ isSettled_of_mem_lowercaseAfter) []

theorem lower_lower (s : String) : lower (lower s) = lower s := by
  rw [lower, toList_lower, lowercase_lowercase, ← lower]

end Text

/-- The query for the text of a query is that query, with the same mode whatever the pattern is. -/
theorem Query.ofText_text_ofText (p : Pattern) (raw : String) :
    ofText p (ofText p raw).text = ofText p raw := by
  rw [ofText, ofText, Text.lower_lower]

end LiveFind
