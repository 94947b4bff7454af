import Mathlib
import LiveFind.Text.DecimalDigit
import LiveFind.Text.Lowercase

/-!
# Characters with plain case

The lower case of most texts tells little about the text. A few characters are different: no
character is lowered to them but they themselves and, where they are letters, their ASCII capitals.
Decimal digits are such characters, and so are `#`, `:` and the letters of `node`; `k` is not one,
since the Kelvin sign is lowered to it. A text of plain characters is the lower case of just those
texts of which it is the ASCII lower case (`lowercase_eq_iff`).

Which characters are plain is checked against the runs of the lower case table, run by run.
-/

namespace LiveFind.Text

/-- The code points of some plain characters. -/
def plainRanges : List (Nat × Nat) :=
  (0x23, 0x23) :: (0x3A, 0x3A) :: (0x64, 0x65) :: (0x6E, 0x6F) :: decimalDigits

/-- The characters that an identifier may have in lower case. -/
def IsPlain (c : Char) : Prop :=
  ∃ r ∈ plainRanges, r.1 ≤ c.toNat ∧ c.toNat ≤ r.2

instance (c : Char) : Decidable (IsPlain c) :=
  inferInstanceAs (Decidable (∃ _ ∈ _, _))

theorem ascending_decimalDigits : Ascending decimalDigits := by
  decide

theorem isPlain_of_isDecimalDigit {c : Char} (h : isDecimalDigit c = true) : IsPlain c := by
  obtain ⟨r, hr, hc⟩ := (covers_iff ascending_decimalDigits c.toNat).1 h
  exact ⟨r, by simp [plainRanges, hr], hc⟩

/-- Whether no range of a table has a code point from `lo` to `hi`. -/
def avoids (table : List (Nat × Nat)) (lo hi : Nat) : Bool :=
  table.all fun r ↦ Nat.blt hi r.1 || Nat.blt r.2 lo

theorem not_isPlain_of_avoids {lo hi : Nat} (h : avoids plainRanges lo hi = true) {c : Char}
    (hlo : lo ≤ c.toNat) (hhi : c.toNat ≤ hi) : ¬IsPlain c := by
  rintro ⟨r, hr, hle, hge⟩
  have hout := List.all_eq_true.1 h r hr
  rw [Bool.or_eq_true, Nat.blt_eq, Nat.blt_eq] at hout
  omega

/-! ### Runs -/

/-- Runs leave a code point as it is, or one of them holds it and moves it. -/
theorem mapTo_eq_or (runs : List CaseRun) (n : Nat) :
    CaseRun.mapTo runs n = n ∨
      ∃ r ∈ runs, r.holds n = true ∧ CaseRun.mapTo runs n = r.apply n := by
  induction runs with
  | nil => exact .inl rfl
  | cons r runs ih =>
    rw [CaseRun.mapTo_cons]
    split
    · rcases ih with hsame | ⟨r', hr', hmoved⟩
      · exact .inl hsame
      · exact .inr ⟨r', List.mem_cons_of_mem r hr', hmoved⟩
    · split
      · rename_i hholds
        exact .inr ⟨r, List.mem_cons_self, hholds, rfl⟩
      · exact .inl rfl

theorem le_and_le_of_holds {r : CaseRun} {n : Nat} (h : r.holds n = true) :
    r.first ≤ n ∧ n ≤ r.last := by
  simp only [CaseRun.holds, Bool.and_eq_true, decide_eq_true_eq] at h
  exact h.1

/-- The capitals of ASCII. -/
def capitals : CaseRun := ⟨0x41, 0x5A, 1, 0x61⟩

theorem lowerRuns_eq_cons : lowerRuns = capitals :: lowerRuns.tail :=
  rfl

theorem capitals_mem_lowerRuns : capitals ∈ lowerRuns :=
  lowerRuns_eq_cons ▸ List.mem_cons_self

/-- No run holds a plain character. -/
theorem avoids_lowerRuns :
    (lowerRuns.all fun r ↦ avoids plainRanges r.first r.last) = true := by
  decide +kernel

/-- No run but that of the ASCII capitals leads to a plain character. -/
theorem avoids_images_lowerRuns :
    (lowerRuns.tail.all fun r ↦
      avoids plainRanges r.image (r.image + (r.last - r.first))) = true := by
  decide +kernel

/-! ### Single characters -/

theorem not_isPlain_of_holds {r : CaseRun} (hr : r ∈ lowerRuns) {c : Char}
    (hholds : r.holds c.toNat = true) : ¬IsPlain c := by
  obtain ⟨hfirst, hlast⟩ := le_and_le_of_holds hholds
  exact not_isPlain_of_avoids (List.all_eq_true.1 avoids_lowerRuns r hr) hfirst hlast

theorem lowerChar_of_isPlain {c : Char} (h : IsPlain c) : lowerChar c = [c] := by
  have hne : c ≠ 'İ' := by
    rintro rfl
    exact absurd h (by decide)
  rcases mapTo_eq_or lowerRuns c.toNat with hsame | ⟨r, hr, hholds, -⟩
  · rw [lowerChar, if_neg hne, hsame, Char.ofNat_toNat]
  · exact absurd h (not_isPlain_of_holds hr hholds)

theorem holds_capitals_iff {c : Char} : capitals.holds c.toNat = true ↔ c.isUpper = true := by
  simp only [CaseRun.holds, Char.isUpper, Bool.and_eq_true, decide_eq_true_eq,
    UInt32.le_iff_toNat_le]
  exact and_iff_left (Nat.mod_one _)

theorem toLower_of_isPlain {c : Char} (h : IsPlain c) : c.toLower = c :=
  Char.toLower_eq_of_not_isUpper fun hupper ↦
    not_isPlain_of_holds capitals_mem_lowerRuns (holds_capitals_iff.2 hupper) h

theorem apply_capitals {c : Char} (h : c.isUpper = true) :
    Char.ofNat (capitals.apply c.toNat) = c.toLower := by
  obtain ⟨hfirst, -⟩ := le_and_le_of_holds (holds_capitals_iff.2 h)
  rw [Char.toLower_eq_of_isUpper h]
  congr 1
  simp only [CaseRun.apply, capitals] at hfirst ⊢
  omega

theorem lowerChar_of_isUpper {c : Char} (h : c.isUpper = true) : lowerChar c = [c.toLower] := by
  have hne : c ≠ 'İ' := by
    rintro rfl
    exact absurd h (by decide)
  have hholds := holds_capitals_iff.2 h
  have hlast := (le_and_le_of_holds hholds).2
  rw [lowerChar, if_neg hne, lowerRuns_eq_cons, CaseRun.mapTo_cons, if_neg (Nat.not_lt.2 hlast),
    if_pos hholds, apply_capitals h]

/-- A plain character has one code point only. -/
theorem eq_toNat_of_ofNat_eq {n : Nat} {d : Char} (hd : IsPlain d) (h : Char.ofNat n = d) :
    n = d.toNat := by
  have hpos : 0 < d.toNat := by
    obtain ⟨p, hp, hle, -⟩ := hd
    have hfirst : ∀ p ∈ plainRanges, 0 < p.1 := by decide
    exact Nat.lt_of_lt_of_le (hfirst p hp) hle
  rw [← h, Char.toNat_ofNat] at hpos ⊢
  split at hpos
  · rename_i hvalid
    rw [if_pos hvalid]
  · exact absurd hpos (Nat.lt_irrefl 0)

/-- Only a plain character itself and its ASCII capital are lowered to it. -/
theorem lowerChar_eq_singleton_iff {c d : Char} (hd : IsPlain d) :
    lowerChar c = [d] ↔ c.toLower = d := by
  constructor
  · intro h
    rw [lowerChar] at h
    split at h
    · cases h
    · have hvalue : Char.ofNat (CaseRun.mapTo lowerRuns c.toNat) = d := List.singleton_inj.1 h
      rcases mapTo_eq_or lowerRuns c.toNat with hsame | ⟨r, hr, hholds, hmoved⟩
      · rw [hsame, Char.ofNat_toNat] at hvalue
        rw [hvalue, toLower_of_isPlain hd]
      · rw [hmoved] at hvalue
        rw [lowerRuns_eq_cons, List.mem_cons] at hr
        rcases hr with rfl | hr
        · rw [← hvalue, apply_capitals (holds_capitals_iff.1 hholds)]
        · -- the image of the run would be plain
          obtain ⟨hfirst, hlast⟩ := le_and_le_of_holds hholds
          have himage := eq_toNat_of_ofNat_eq hd hvalue
          rw [CaseRun.apply] at himage
          exact absurd hd (not_isPlain_of_avoids
            (List.all_eq_true.1 avoids_images_lowerRuns r hr) (by omega) (by omega))
  · rintro rfl
    by_cases hupper : c.isUpper = true
    · exact lowerChar_of_isUpper hupper
    · rw [Char.toLower_eq_of_not_isUpper hupper] at hd ⊢
      exact lowerChar_of_isPlain hd

/-! ### Texts -/

/-- The lower case of a character where it stands. Against a plain character only its first part
counts, and this is the ASCII lower case. -/
theorem exists_lowered_eq_cons (c : Char) (before after : List Char) :
    ∃ x rest, (if c = 'Σ' then [lowerSigma before after] else lowerChar c) = x :: rest ∧
      ∀ d, IsPlain d → (x = d ↔ c.toLower = d) ∧ (x = d → rest = []) := by
  -- neither the character nor the first part of its lower case is plain
  have hnot : ∀ {x}, ¬IsPlain x → ¬IsPlain c.toLower →
      ∀ d, IsPlain d → (x = d ↔ c.toLower = d) := by
    intro x hx hc d hd
    exact iff_of_false (fun h ↦ hx (h ▸ hd)) fun h ↦ hc (h ▸ hd)
  by_cases hsigma : c = 'Σ'
  · subst hsigma
    refine ⟨lowerSigma before after, [], if_pos rfl, fun d hd ↦ ⟨hnot ?_ ?_ d hd, fun _ ↦ rfl⟩⟩
    · rw [lowerSigma]
      split <;> decide
    · decide
  · rw [if_neg hsigma]
    by_cases hdotted : c = 'İ'
    · subst hdotted
      have hi : ¬IsPlain 'i' := by decide
      exact ⟨'i', _, if_pos rfl,
        fun d hd ↦ ⟨hnot hi (by decide) d hd, fun h ↦ absurd hd (h ▸ hi)⟩⟩
    · refine ⟨_, [], if_neg hdotted, fun d hd ↦ ⟨?_, fun _ ↦ rfl⟩⟩
      rw [← lowerChar_eq_singleton_iff hd, lowerChar, if_neg hdotted, List.singleton_inj]

/-- A text of plain characters is the lower case of those texts of which it is the ASCII lower case,
and of no others. -/
theorem lowercaseAfter_eq_iff {s : List Char} (hs : ∀ d ∈ s, IsPlain d) (before cs : List Char) :
    lowercaseAfter before cs = s ↔ cs.map Char.toLower = s := by
  induction cs generalizing before s with
  | nil => exact Iff.rfl
  | cons c cs ih =>
    obtain ⟨x, rest, heq, hx⟩ := exists_lowered_eq_cons c before cs
    rw [lowercaseAfter, heq, List.map_cons, List.cons_append]
    cases s with
    | nil => simp
    | cons d s =>
      obtain ⟨hd, hs⟩ := List.forall_mem_cons.1 hs
      obtain ⟨hiff, hrest⟩ := hx d hd
      rw [List.cons_eq_cons, List.cons_eq_cons, ← hiff]
      refine and_congr_right fun hxd ↦ ?_
      rw [hrest hxd, List.nil_append, ih hs]

theorem lowercase_eq_iff {s : List Char} (hs : ∀ d ∈ s, IsPlain d) (cs : List Char) :
    lowercase cs = s ↔ cs.map Char.toLower = s :=
  lowercaseAfter_eq_iff hs [] cs

end LiveFind.Text
