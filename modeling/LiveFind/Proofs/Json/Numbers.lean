import LiveFind.Json.Record
import LiveFind.Proofs.Answers
import LiveFind.Proofs.Json.Grammar

/-!
# Reading numbers

The readers of numbers against the grammar. A number that is passed over ends where its digits do
(`skipMagnitude_append`). A number that is read is whole exactly if it has no fraction, no exponent
and a value that fits (`readNumber_eq_int_iff`); everything else becomes a double, and a double is
no size.

The digits of a number end where no digit follows, and a point or an exponent behind them would make
it another number. `EndsNumber` says that none of these follows; in a text this holds at every place
behind a value. The significand takes all digits if they fit, since the first ones of them never
stand for more than all of them do (`absorb_eq`), and otherwise it leaves some of them
(`absorb_lt`).
-/

namespace LiveFind.Json

/-! ### Where numbers end -/

/-- No digit follows. -/
def EndsDigits (rest : List Char) : Prop :=
  ∀ c ∈ rest.head?, c.isDigit = false

/-- Whether a number ends before what follows: no digit follows, and nothing that makes a double of
the digits. -/
def EndsNumber (rest : List Char) : Prop :=
  ∀ c ∈ rest.head?, c.isDigit = false ∧ c ≠ '.' ∧ c ≠ 'e' ∧ c ≠ 'E'

theorem endsDigits_cons {c : Char} (hc : c.isDigit = false) (rest : List Char) :
    EndsDigits (c :: rest) := by
  intro d hd
  rw [List.head?_cons, Option.mem_some] at hd
  exact hd ▸ hc

theorem endsNumber_cons {c : Char} {rest : List Char} (hdigit : c.isDigit = false)
    (hpoint : c ≠ '.') (he : c ≠ 'e') (hE : c ≠ 'E') : EndsNumber (c :: rest) := by
  intro d hd
  rw [List.head?_cons, Option.mem_some] at hd
  exact hd ▸ ⟨hdigit, hpoint, he, hE⟩

theorem EndsNumber.endsDigits {rest : List Char} (h : EndsNumber rest) : EndsDigits rest :=
  fun c hc ↦ (h c hc).1

theorem EndsDigits.takeWhile_append {rest digits : List Char} (h : EndsDigits rest)
    (hdigits : ∀ c ∈ digits, c.isDigit = true) :
    (digits ++ rest).takeWhile Char.isDigit = digits := by
  rw [List.takeWhile_append_of_pos hdigits]
  cases rest with
  | nil => exact List.append_nil _
  | cons c rest =>
    rw [List.takeWhile_cons_of_neg (by rw [h c rfl]; exact Bool.false_ne_true), List.append_nil]

theorem EndsDigits.dropWhile_append {rest digits : List Char} (h : EndsDigits rest)
    (hdigits : ∀ c ∈ digits, c.isDigit = true) :
    (digits ++ rest).dropWhile Char.isDigit = rest := by
  rw [List.dropWhile_append_of_pos hdigits]
  cases rest with
  | nil => rfl
  | cons c rest => exact List.dropWhile_cons_of_neg (by rw [h c rfl]; exact Bool.false_ne_true)

theorem IsDigits.exists_cons {cs : List Char} (h : IsDigits cs) :
    ∃ c digits, cs = c :: digits ∧ c.isDigit = true := by
  obtain ⟨c, digits, rfl⟩ := List.exists_cons_of_ne_nil h.1
  exact ⟨c, digits, rfl, h.2 c List.mem_cons_self⟩

/-- A digit is none of the characters that are no digits. -/
theorem ne_of_isDigit {c d : Char} (hc : c.isDigit = true) (hd : d.isDigit = false) : c ≠ d := by
  rintro rfl
  rw [hc] at hd
  cases hd

theorem isDigit_letter {letter : Char} (h : letter = 'e' ∨ letter = 'E') :
    letter.isDigit = false := by
  rcases h with rfl | rfl <;> rfl

theorem IsExponent.endsDigits {exponent rest : List Char} (h : IsExponent exponent)
    (hrest : EndsNumber rest) : EndsDigits (exponent ++ rest) := by
  cases h with
  | none => exact hrest.endsDigits
  | power hletter => exact endsDigits_cons (isDigit_letter hletter) _

theorem IsFraction.endsDigits {fraction exponent rest : List Char} (h : IsFraction fraction)
    (hexponent : IsExponent exponent) (hrest : EndsNumber rest) :
    EndsDigits (fraction ++ (exponent ++ rest)) := by
  cases h with
  | none => exact hexponent.endsDigits hrest
  | places => exact endsDigits_cons rfl _

theorem IsWhole.ne_zero_cons {whole : List Char} (h : IsWhole whole) (c : Char)
    (digits : List Char) : whole ≠ '0' :: c :: digits := by
  rintro rfl
  cases h.2 rfl

/-! ### Passing over a number -/

theorem skipExponent_cons {c : Char} (hc : c.isDigit = true) (cs : List Char) :
    skipExponent (c :: cs) = .ok (cs.dropWhile Char.isDigit) := by
  rw [skipExponent, if_pos hc]
  · exact fun _ h ↦ ne_of_isDigit hc rfl (List.cons_eq_cons.1 h).1
  · exact fun _ h ↦ ne_of_isDigit hc rfl (List.cons_eq_cons.1 h).1

theorem skipExponent_append {sign digits rest : List Char} (hsign : sign ∈ [[], ['+'], ['-']])
    (hdigits : IsDigits digits) (hrest : EndsDigits rest) :
    skipExponent (sign ++ (digits ++ rest)) = .ok rest := by
  obtain ⟨c, digits, rfl, hc⟩ := hdigits.exists_cons
  have hdrop : (digits ++ rest).dropWhile Char.isDigit = rest :=
    hrest.dropWhile_append fun d hd ↦ hdigits.2 d (List.mem_cons_of_mem c hd)
  have hskip := skipExponent_cons hc (digits ++ rest)
  rw [hdrop] at hskip
  simp only [List.mem_cons, List.not_mem_nil, or_false] at hsign
  rcases hsign with rfl | rfl | rfl
  · exact hskip
  · rw [List.singleton_append, List.cons_append, skipExponent, if_pos hc, hdrop]
  · rw [List.singleton_append, List.cons_append, skipExponent, if_pos hc, hdrop]

/-- A number is passed over behind its sign. -/
theorem skipMagnitude_append {whole fraction exponent rest : List Char} (hwhole : IsWhole whole)
    (hfraction : IsFraction fraction) (hexponent : IsExponent exponent) (hrest : EndsNumber rest) :
    skipMagnitude (whole ++ (fraction ++ (exponent ++ rest))) = .ok rest := by
  have hends := hfraction.endsDigits hexponent hrest
  have hform : ¬(whole.isEmpty = true ∨ whole.head? = some '0' ∧ 1 < whole.length) := by
    rintro (hempty | ⟨hzero, hlong⟩)
    · exact hwhole.1.1 (List.isEmpty_iff.1 hempty)
    · rw [hwhole.2 hzero] at hlong
      exact absurd hlong (by decide)
  simp only [skipMagnitude, hends.takeWhile_append hwhole.1.2, List.drop_left, if_neg hform]
  cases hfraction with
  | none =>
    cases hexponent with
    | none =>
      simp only [List.nil_append]
      split
      · exact absurd rfl (hrest '.' rfl).2.1
      · exact absurd rfl (hrest 'e' rfl).2.2.1
      · exact absurd rfl (hrest 'E' rfl).2.2.2
      · rfl
    | power hletter hsign hdigits =>
      have hskip := skipExponent_append hsign hdigits hrest.endsDigits
      rw [← List.append_assoc] at hskip
      rcases hletter with rfl | rfl <;> exact hskip
  | @places places hplaces =>
    have hnotEmpty : ¬places.isEmpty = true := fun h ↦ hplaces.1 (List.isEmpty_iff.1 h)
    simp only [List.cons_append, (hexponent.endsDigits hrest).takeWhile_append hplaces.2,
      List.drop_left, if_neg hnotEmpty]
    cases hexponent with
    | none =>
      simp only [List.nil_append]
      split
      · exact absurd rfl (hrest 'e' rfl).2.2.1
      · exact absurd rfl (hrest 'E' rfl).2.2.2
      · rfl
    | power hletter hsign hdigits =>
      have hskip := skipExponent_append hsign hdigits hrest.endsDigits
      rw [← List.append_assoc] at hskip
      rcases hletter with rfl | rfl <;> exact hskip

/-! ### Doubles -/

/-- The number is a double. -/
def IsDouble (r : Number × List Char) : Prop :=
  ∃ bits, r.1 = .float bits

theorem yields_doubleOfParts (negative : Bool) (significand : Nat) (exponent : Int) :
    Yields (doubleOfParts negative significand exponent) fun x ↦ ∃ bits, x = .float bits :=
  (yields_true _).bind fun _ _ ↦ yields_ok ⟨_, rfl⟩

theorem yields_readExponent (negative : Bool) (significand : Nat) (exponent : Int)
    (cs : List Char) : Yields (readExponent negative significand exponent cs) IsDouble := by
  unfold readExponent
  dsimp only
  -- whatever the sign of the exponent
  split
  all_goals
    split
    · exact yields_error _
    · split
      · split
        · exact yields_error _
        · exact yields_ok ⟨_, rfl⟩
      · exact (yields_doubleOfParts _ _ _).bind fun _ h ↦ yields_ok h

theorem yields_readPlaces (negative : Bool) (significand : Nat) (exponent : Int)
    (cs : List Char) : Yields (readPlaces negative significand exponent cs) IsDouble := by
  unfold readPlaces
  dsimp only
  split
  · exact yields_error _
  · split
    · exact yields_readExponent _ _ _ _
    · exact yields_readExponent _ _ _ _
    · exact (yields_doubleOfParts _ _ _).bind fun _ h ↦ yields_ok h

/-! ### Whole numbers -/

theorem le_ofDigitChars (digits : List Char) (n : Nat) : n ≤ Nat.ofDigitChars 10 digits n := by
  induction digits generalizing n with
  | nil => exact Nat.le_refl n
  | cons c digits ih =>
    rw [Nat.ofDigitChars_cons]
    exact Nat.le_trans (by omega) (ih _)

/-- If the number of all digits fits, then so do those of the first ones. -/
theorem absorb_eq {n : Nat} {digits : List Char}
    (h : Nat.ofDigitChars 10 digits n ≤ significandLimit) :
    absorb n digits = (Nat.ofDigitChars 10 digits n, digits.length) := by
  induction digits generalizing n with
  | nil => rfl
  | cons c digits ih =>
    rw [Nat.ofDigitChars_cons] at h ⊢
    have hle := Nat.le_trans (le_ofDigitChars digits _) h
    have hvalue : 10 * n + digitValue c = 10 * n + (c.toNat - '0'.toNat) := rfl
    rw [absorb, hvalue]
    simp only [Nat.not_lt.2 hle, if_false, ih h, List.length_cons]

/-- If the number of all digits does not fit, then some of them are left. -/
theorem absorb_lt {n : Nat} (hn : n ≤ significandLimit) {digits : List Char}
    (h : significandLimit < Nat.ofDigitChars 10 digits n) :
    (absorb n digits).2 < digits.length := by
  induction digits generalizing n with
  | nil => exact absurd h (Nat.not_lt.2 hn)
  | cons c digits ih =>
    rw [Nat.ofDigitChars_cons] at h
    rw [absorb]
    dsimp only
    split
    · exact Nat.succ_pos _
    · rename_i hfits
      exact Nat.succ_lt_succ (ih (Nat.not_lt.1 hfits) h)

/-- How a number goes on behind its whole part. -/
theorem readMagnitude_append {whole rest : List Char} (hwhole : IsWhole whole)
    (hrest : EndsDigits rest) (negative : Bool) :
    let (significand, count) := absorb 0 whole
    let exponent : Int := whole.length - count
    (∀ tail, rest = '.' :: tail →
      readMagnitude negative (whole ++ rest) = readPlaces negative significand exponent tail) ∧
    (∀ letter tail, letter = 'e' ∨ letter = 'E' → rest = letter :: tail →
      readMagnitude negative (whole ++ rest) = readExponent negative significand exponent tail) ∧
    (EndsNumber rest → readMagnitude negative (whole ++ rest) =
      if exponent = 0 then .ok (wholeNumber negative significand, rest)
      else doubleOfParts negative significand exponent >>= fun x ↦ .ok (x, rest)) := by
  simp only [readMagnitude, hrest.takeWhile_append hwhole.1.2, List.drop_left]
  split
  · exact absurd rfl hwhole.1.1
  · exact absurd rfl (hwhole.ne_zero_cons _ _)
  · refine ⟨?_, ?_, fun hends ↦ ?_⟩
    · rintro tail rfl
      rfl
    · rintro letter tail (rfl | rfl) rfl <;> rfl
    · split
      · exact absurd rfl (hends '.' rfl).2.1
      · exact absurd rfl (hends 'e' rfl).2.2.1
      · exact absurd rfl (hends 'E' rfl).2.2.2
      · rfl

/-- A whole number that fits is kept exactly. -/
theorem readMagnitude_of_le {whole rest : List Char} (hwhole : IsWhole whole)
    (hfits : Nat.ofDigitChars 10 whole 0 ≤ significandLimit) (hrest : EndsNumber rest)
    (negative : Bool) :
    readMagnitude negative (whole ++ rest) =
      .ok (wholeNumber negative (Nat.ofDigitChars 10 whole 0), rest) := by
  have h := (readMagnitude_append hwhole hrest.endsDigits negative).2.2 hrest
  rw [absorb_eq hfits] at h
  rwa [if_pos (Int.sub_self _)] at h

/-- What is no whole number within 64 bits becomes a double. -/
theorem yields_readMagnitude_append {whole fraction exponent rest : List Char}
    (hwhole : IsWhole whole) (hfraction : IsFraction fraction) (hexponent : IsExponent exponent)
    (hrest : EndsNumber rest)
    (h : fraction ++ exponent = [] → significandLimit < Nat.ofDigitChars 10 whole 0)
    (negative : Bool) :
    Yields (readMagnitude negative (whole ++ (fraction ++ (exponent ++ rest)))) IsDouble := by
  obtain ⟨hpoint, hletter, hend⟩ :=
    readMagnitude_append hwhole (hfraction.endsDigits hexponent hrest) negative
  cases hfraction with
  | places =>
    rw [hpoint _ rfl]
    exact yields_readPlaces _ _ _ _
  | none =>
    cases hexponent with
    | power hl =>
      rw [hletter _ _ hl rfl]
      exact yields_readExponent _ _ _ _
    | none =>
      have hlt := absorb_lt (Nat.zero_le _) (h rfl)
      rw [hend hrest, if_neg (by omega)]
      exact (yields_doubleOfParts _ _ _).bind fun _ h ↦ yields_ok h

/-- A number with a sign is no size. -/
theorem yields_readMagnitude_negative (cs : List Char) :
    Yields (readMagnitude true cs) fun r ↦ ∀ n : Nat, r.1 ≠ .int n := by
  have hdouble {x : Number} : (∃ bits, x = .float bits) → ∀ n : Nat, x ≠ .int n := by
    rintro ⟨bits, rfl⟩ n h
    cases h
  unfold readMagnitude
  dsimp only
  split
  · exact yields_error _
  · exact yields_error _
  · split
    · exact fun r hr ↦ hdouble (yields_readPlaces _ _ _ _ r hr)
    · exact fun r hr ↦ hdouble (yields_readExponent _ _ _ _ r hr)
    · exact fun r hr ↦ hdouble (yields_readExponent _ _ _ _ r hr)
    · split
      · refine yields_ok fun n ↦ ?_
        rw [wholeNumber, if_neg (by decide)]
        split
        · rename_i hpos
          intro h
          have := Number.int.inj h
          omega
        · exact hdouble ⟨_, rfl⟩ n
      · exact (yields_doubleOfParts _ _ _).bind fun _ h ↦ yields_ok (hdouble h)

/-! ### Sizes -/

theorem sizeOfNumber_eq_ok_iff {x : Number} {n : Nat} : sizeOfNumber x = .ok n ↔ x = .int n := by
  cases x with
  | float bits => simp [sizeOfNumber]
  | int i =>
    rw [sizeOfNumber, Number.int.injEq]
    split
    · simp only [reduceCtorEq, false_iff]
      omega
    · rw [Except.ok.injEq]
      omega

theorem IsSize.isDigit {n : Nat} {text : List Char} (h : IsSize n text) {c : Char}
    (hc : c ∈ text) : c.isDigit = true :=
  h.1.1.2 c hc

/-- A size has nothing behind its digits. -/
theorem IsSize.fraction_exponent_eq_nil {n : Nat} {whole fraction exponent : List Char}
    (h : IsSize n (whole ++ (fraction ++ exponent))) (hfraction : IsFraction fraction)
    (hexponent : IsExponent exponent) : fraction ++ exponent = [] := by
  cases hfraction with
  | places => exact absurd (h.isDigit (c := '.') (by simp)) (by decide)
  | none =>
    cases hexponent with
    | none => rfl
    | @power letter _ _ hletter =>
      have hdigit := h.isDigit (c := letter) (by simp)
      rw [isDigit_letter hletter] at hdigit
      cases hdigit

theorem readMagnitude_eq_int_iff {whole fraction exponent rest rest' : List Char}
    (hwhole : IsWhole whole) (hfraction : IsFraction fraction) (hexponent : IsExponent exponent)
    (hrest : EndsNumber rest) {n : Nat} :
    readMagnitude false (whole ++ (fraction ++ (exponent ++ rest))) = .ok (.int n, rest') ↔
      IsSize n (whole ++ (fraction ++ exponent)) ∧ rest' = rest := by
  by_cases hfits : fraction ++ exponent = [] ∧ Nat.ofDigitChars 10 whole 0 ≤ significandLimit
  · obtain ⟨hnil, hfits⟩ := hfits
    obtain ⟨rfl, rfl⟩ := List.append_eq_nil_iff.1 hnil
    have hlt : Nat.ofDigitChars 10 whole 0 < 0x10000000000000000 := Nat.lt_succ_of_le hfits
    have hint : wholeNumber false (Nat.ofDigitChars 10 whole 0) = .int n ↔
        Nat.ofDigitChars 10 whole 0 = n := by
      rw [wholeNumber, if_pos (by decide), Number.int.injEq, Int.natCast_inj]
    simp only [List.nil_append, List.append_nil, readMagnitude_of_le hwhole hfits hrest, IsSize,
      Except.ok.injEq, Prod.mk.injEq, hint, hwhole, true_and]
    constructor
    · rintro ⟨rfl, rfl⟩
      exact ⟨⟨rfl, hlt⟩, rfl⟩
    · rintro ⟨⟨rfl, -⟩, rfl⟩
      exact ⟨rfl, rfl⟩
  · have hdouble := yields_readMagnitude_append hwhole hfraction hexponent hrest
      (fun hnil ↦ by_contra fun hlimit ↦ hfits ⟨hnil, Nat.not_lt.1 hlimit⟩) false
    constructor
    · intro h
      obtain ⟨bits, hbits⟩ := hdouble _ h
      cases hbits
    · rintro ⟨hsize, -⟩
      have hnil := hsize.fraction_exponent_eq_nil hfraction hexponent
      rw [hnil, List.append_nil] at hsize
      exact absurd ⟨hnil, hsize.2.1 ▸ Nat.le_of_lt_succ hsize.2.2⟩ hfits

theorem readNumber_of_isDigit {c : Char} (hc : c.isDigit = true) (cs : List Char) :
    readNumber (c :: cs) = readMagnitude false (c :: cs) :=
  readNumber.eq_2 _ fun _ h ↦ ne_of_isDigit hc rfl (List.cons_eq_cons.1 h).1

/-- A number is read as a size exactly if it is written as one. -/
theorem readNumber_eq_int_iff {cs rest rest' : List Char} (hcs : IsNumber cs)
    (hrest : EndsNumber rest) {n : Nat} :
    readNumber (cs ++ rest) = .ok (.int n, rest') ↔ IsSize n cs ∧ rest' = rest := by
  obtain ⟨hsign, hwhole, hfraction, hexponent⟩ := hcs
  simp only [List.mem_cons, List.not_mem_nil, or_false] at hsign
  rcases hsign with rfl | rfl
  · rw [List.nil_append, ← readMagnitude_eq_int_iff hwhole hfraction hexponent hrest]
    obtain ⟨c, digits, rfl, hc⟩ := hwhole.1.exists_cons
    simp only [List.cons_append, List.append_assoc, readNumber_of_isDigit hc]
  · rw [List.singleton_append, List.cons_append, readNumber]
    constructor
    · intro h
      exact absurd rfl (yields_readMagnitude_negative _ _ h n)
    · rintro ⟨hsize, -⟩
      exact absurd (hsize.isDigit List.mem_cons_self) (by decide)

end LiveFind.Json
