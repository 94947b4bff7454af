import LiveFind.Json.StringLiteral
import LiveFind.Proofs.Answers
import LiveFind.Proofs.Json.Grammar

/-!
# Reading strings

The reader of strings against the grammar. What spells a string is read as that string
(`readString_of_spells`), and whatever is read is spelled by the text in front of its closing quote
(`yields_readChars`). That text is the only one: what may stand between quotes ends at the first
quote that is not behind a backslash, and passing over it finds that quote (`skipString_of_isBody`).
So a string is read from between its quotes exactly if it is spelled there
(`readString_eq_ok_iff`).

Both go through the text by plain characters and escapes, one unit of fuel for each.
-/

namespace LiveFind.Json

/-! ### Escapes -/

theorem shortEscape?_eq_some_iff {e c : Char} :
    shortEscape? e = some c ↔ (e, c) ∈ shortEscapes := by
  constructor
  · intro h
    unfold shortEscape? at h
    split at h <;> cases h <;> simp [shortEscapes]
  · intro h
    simp only [shortEscapes, List.mem_cons, Prod.mk.injEq, List.not_mem_nil, or_false] at h
    rcases h with ⟨rfl, rfl⟩ | ⟨rfl, rfl⟩ | ⟨rfl, rfl⟩ | ⟨rfl, rfl⟩ | ⟨rfl, rfl⟩ | ⟨rfl, rfl⟩ |
      ⟨rfl, rfl⟩ | ⟨rfl, rfl⟩ <;> rfl

theorem ne_u_of_mem_shortEscapes {e c : Char} (h : (e, c) ∈ shortEscapes) : e ≠ 'u' := by
  rintro rfl
  cases shortEscape?_eq_some_iff.2 h

theorem readCodeUnit_append {n : Nat} {digits : List Char} (h : IsCodeUnit n digits)
    (rest : List Char) : readCodeUnit (digits ++ rest) = .ok (n, rest) := by
  obtain ⟨ha, hb, hc, hd⟩ := h
  simp [readCodeUnit, ha, hb, hc, hd]

theorem yields_readCodeUnit (cs : List Char) :
    Yields (readCodeUnit cs) fun r ↦ ∃ digits, IsCodeUnit r.1 digits ∧ cs = digits ++ r.2 := by
  unfold readCodeUnit
  split
  · rename_i i j k l h
    rcases cs with _ | ⟨a, _ | ⟨b, _ | ⟨c, _ | ⟨d, rest⟩⟩⟩⟩
    all_goals simp [List.mapM_cons, Option.bind_eq_some_iff] at h
    obtain ⟨hi, hj, hk, hl⟩ := h
    exact yields_ok ⟨_, .mk hi hj hk hl, rfl⟩
  · exact yields_error _

variable {n high low : Nat} {digits digits' rest : List Char}

theorem readEscape_short {e c : Char} (h : (e, c) ∈ shortEscapes) (rest : List Char) :
    readEscape (e :: rest) = .ok (c, rest) := by
  rw [readEscape.eq_3 _ _ (ne_u_of_mem_shortEscapes h), shortEscape?_eq_some_iff.2 h]

theorem readEscape_unit (hdigits : IsCodeUnit n digits) (hhigh : ¬IsHigh n) (hlow : ¬IsLow n)
    (rest : List Char) : readEscape ('u' :: (digits ++ rest)) = .ok (Char.ofNat n, rest) := by
  rw [IsHigh] at hhigh
  rw [IsLow] at hlow
  simp only [readEscape, readCodeUnit_append hdigits, bind, Except.bind, if_neg hlow,
    if_neg hhigh, pure, Except.pure]

theorem readLowSurrogate_unit (hdigits : IsCodeUnit low digits) (hlow : IsLow low) (high : Nat)
    (rest : List Char) :
    readLowSurrogate high ('\\' :: 'u' :: (digits ++ rest)) = .ok (joined high low, rest) := by
  have hin : ¬(low < 0xDC00 ∨ 0xDFFF < low) := by
    rw [IsLow] at hlow
    omega
  simp only [readLowSurrogate, readCodeUnit_append hdigits, bind, Except.bind, if_neg hin, pure,
    Except.pure, joined]

theorem readEscape_pair (hdigits : IsCodeUnit high digits) (hhigh : IsHigh high)
    (hdigits' : IsCodeUnit low digits') (hlow : IsLow low) (rest : List Char) :
    readEscape ('u' :: (digits ++ '\\' :: 'u' :: (digits' ++ rest))) =
      .ok (joined high low, rest) := by
  have hnotLow : ¬(0xDC00 ≤ high ∧ high ≤ 0xDFFF) := by
    rw [IsHigh] at hhigh
    omega
  rw [IsHigh] at hhigh
  simp only [readEscape, readCodeUnit_append hdigits, bind, Except.bind, if_neg hnotLow,
    if_pos hhigh]
  exact readLowSurrogate_unit hdigits' hlow high rest

theorem yields_readLowSurrogate (high : Nat) (cs : List Char) :
    Yields (readLowSurrogate high cs) fun r ↦ ∃ low digits, IsCodeUnit low digits ∧ IsLow low ∧
      r.1 = joined high low ∧ cs = '\\' :: 'u' :: (digits ++ r.2) := by
  unfold readLowSurrogate
  split
  · exact yields_error _
  · exact yields_error _
  · refine (yields_readCodeUnit _).bind ?_
    rintro ⟨low, rest⟩ ⟨digits, hdigits, rfl⟩
    dsimp only
    split
    · exact yields_error _
    · rename_i hlow
      exact yields_ok ⟨low, digits, hdigits, by unfold IsLow; omega, by rw [joined], rfl⟩
  · exact yields_error _

/-- What is read as an escape spells its character behind a backslash. -/
theorem yields_readEscape (cs : List Char) :
    Yields (readEscape cs) fun r ↦ ∃ e, cs = e ++ r.2 ∧
      ∀ {ds body : List Char}, Spells ds body → Spells (r.1 :: ds) ('\\' :: (e ++ body)) := by
  unfold readEscape
  split
  · exact yields_error _
  · refine (yields_readCodeUnit _).bind ?_
    rintro ⟨n, rest⟩ ⟨digits, hdigits, rfl⟩
    dsimp only
    split
    · exact yields_error _
    · rename_i hlow
      split
      · rename_i hhigh
        rintro ⟨c, rest'⟩ hread
        obtain ⟨low, digits', hdigits', hlow', hc, rfl⟩ := yields_readLowSurrogate n rest _ hread
        refine ⟨'u' :: (digits ++ '\\' :: 'u' :: digits'), by simp, fun h ↦ ?_⟩
        rw [hc]
        simpa using Spells.pair hdigits hhigh hdigits' hlow' h
      · rename_i hhigh
        refine yields_ok ⟨'u' :: digits, rfl, fun h ↦ ?_⟩
        exact Spells.unit hdigits hhigh hlow h
  · rename_i e rest _
    split
    · rename_i c hc
      exact yields_ok ⟨[e], rfl, fun h ↦ .short (shortEscape?_eq_some_iff.1 hc) h⟩
    · exact yields_error _

theorem skipEscape_short {e c : Char} (h : (e, c) ∈ shortEscapes) (rest : List Char) :
    skipEscape (e :: rest) = .ok rest := by
  rw [skipEscape.eq_3 _ _ (ne_u_of_mem_shortEscapes h), shortEscape?_eq_some_iff.2 h]
  rfl

theorem skipEscape_unit (hdigits : IsCodeUnit n digits) (rest : List Char) :
    skipEscape ('u' :: (digits ++ rest)) = .ok rest := by
  rw [skipEscape, readCodeUnit_append hdigits]
  rfl

/-! ### Strings -/

section Steps

variable {c : Char} {cs : List Char} (fuel : Nat)

theorem readChars_quote (rest : List Char) : readChars (fuel + 1) ('"' :: rest) = .ok ([], rest) :=
  rfl

theorem readChars_plain (hc : IsPlain c) (rest : List Char) :
    readChars (fuel + 1) (c :: rest) = (readChars fuel rest).map fun r ↦ (c :: r.1, r.2) := by
  obtain ⟨hquote, hbackslash, hcontrol⟩ := hc
  rw [readChars, if_neg hquote, if_neg hbackslash, if_neg (Nat.not_lt.2 hcontrol)]
  cases readChars fuel rest <;> rfl

theorem readChars_escape (h : readEscape cs = .ok (c, rest)) :
    readChars (fuel + 1) ('\\' :: cs) = (readChars fuel rest).map fun r ↦ (c :: r.1, r.2) := by
  rw [readChars, if_neg (by decide), if_pos rfl, h]
  simp only [bind, Except.bind]
  cases readChars fuel rest <;> rfl

theorem skipString_plain (hc : IsPlain c) (rest : List Char) :
    skipString (fuel + 1) (c :: rest) = skipString fuel rest := by
  obtain ⟨hquote, hbackslash, hcontrol⟩ := hc
  rw [skipString, if_neg hquote, if_neg hbackslash, if_neg (Nat.not_lt.2 hcontrol)]

theorem skipString_escape (h : skipEscape cs = .ok rest) :
    skipString (fuel + 1) ('\\' :: cs) = skipString fuel rest := by
  rw [skipString, if_neg (by decide), if_pos rfl, h]
  rfl

end Steps

/-- What spells a string is read as the string, up to the closing quote. -/
theorem readChars_of_spells {cs body : List Char} (h : Spells cs body) {fuel : Nat}
    (hfuel : body.length < fuel) (rest : List Char) :
    readChars fuel (body ++ '"' :: rest) = .ok (cs, rest) := by
  induction h generalizing fuel with
  | nil =>
    obtain ⟨fuel, rfl⟩ := Nat.exists_eq_add_one.2 hfuel
    exact readChars_quote fuel rest
  | plain hc _ ih =>
    rw [List.length_cons] at hfuel
    obtain ⟨fuel, rfl⟩ := Nat.exists_eq_add_one.2 (Nat.zero_lt_of_lt hfuel)
    rw [List.cons_append, readChars_plain fuel hc, ih (by omega)]
    rfl
  | short he _ ih =>
    simp only [List.length_cons] at hfuel
    obtain ⟨fuel, rfl⟩ := Nat.exists_eq_add_one.2 (Nat.zero_lt_of_lt hfuel)
    rw [List.cons_append, List.cons_append, readChars_escape fuel (readEscape_short he _),
      ih (by omega)]
    rfl
  | unit hdigits hhigh hlow _ ih =>
    simp only [List.length_cons, List.length_append] at hfuel
    obtain ⟨fuel, rfl⟩ := Nat.exists_eq_add_one.2 (Nat.zero_lt_of_lt hfuel)
    rw [List.cons_append, List.cons_append, List.append_assoc,
      readChars_escape fuel (readEscape_unit hdigits hhigh hlow _), ih (by omega)]
    rfl
  | pair hdigits hhigh hdigits' hlow _ ih =>
    simp only [List.length_cons, List.length_append] at hfuel
    obtain ⟨fuel, rfl⟩ := Nat.exists_eq_add_one.2 (Nat.zero_lt_of_lt hfuel)
    rw [List.cons_append, List.cons_append, List.append_assoc, List.cons_append, List.cons_append,
      List.append_assoc, readChars_escape fuel (readEscape_pair hdigits hhigh hdigits' hlow _),
      ih (by omega)]
    rfl

/-- Passing over what may stand between quotes ends behind the closing one. -/
theorem skipString_of_isBody {body : List Char} (h : IsBody body) {fuel : Nat}
    (hfuel : body.length < fuel) (rest : List Char) :
    skipString fuel (body ++ '"' :: rest) = .ok rest := by
  induction h generalizing fuel with
  | nil =>
    obtain ⟨fuel, rfl⟩ := Nat.exists_eq_add_one.2 hfuel
    rfl
  | plain hc _ ih =>
    rw [List.length_cons] at hfuel
    obtain ⟨fuel, rfl⟩ := Nat.exists_eq_add_one.2 (Nat.zero_lt_of_lt hfuel)
    rw [List.cons_append, skipString_plain fuel hc, ih (by omega)]
  | short he _ ih =>
    simp only [List.length_cons] at hfuel
    obtain ⟨fuel, rfl⟩ := Nat.exists_eq_add_one.2 (Nat.zero_lt_of_lt hfuel)
    rw [List.cons_append, List.cons_append, skipString_escape fuel (skipEscape_short he _),
      ih (by omega)]
  | unit hdigits _ ih =>
    simp only [List.length_cons, List.length_append] at hfuel
    obtain ⟨fuel, rfl⟩ := Nat.exists_eq_add_one.2 (Nat.zero_lt_of_lt hfuel)
    rw [List.cons_append, List.cons_append, List.append_assoc,
      skipString_escape fuel (skipEscape_unit hdigits _), ih (by omega)]

/-- Whatever is read is spelled by the text in front of the closing quote. -/
theorem yields_readChars (fuel : Nat) (text : List Char) :
    Yields (readChars fuel text) fun r ↦
      ∃ body, Spells r.1 body ∧ text = body ++ '"' :: r.2 := by
  induction fuel generalizing text with
  | zero => exact yields_error _
  | succ fuel ih =>
    cases text with
    | nil => exact yields_error _
    | cons c text =>
      rw [readChars]
      split
      · rename_i hquote
        exact yields_ok ⟨[], .nil, hquote ▸ rfl⟩
      · rename_i hquote
        split
        · rename_i hbackslash
          refine (yields_readEscape text).bind ?_
          rintro ⟨d, rest⟩ ⟨e, rfl, hescape⟩
          refine (ih rest).bind ?_
          rintro ⟨cs, rest⟩ ⟨body, hbody, rfl⟩
          exact yields_ok ⟨'\\' :: (e ++ body), hescape hbody, by rw [hbackslash]; simp⟩
        · rename_i hbackslash
          split
          · exact yields_error _
          · rename_i hcontrol
            refine (ih text).bind ?_
            rintro ⟨cs, rest⟩ ⟨body, hbody, rfl⟩
            exact yields_ok
              ⟨c :: body, .plain ⟨hquote, hbackslash, Nat.not_lt.1 hcontrol⟩ hbody, rfl⟩

/-- What stands between quotes ends at one place only. -/
theorem IsBody.eq_of_append {body body' rest rest' : List Char} (h : IsBody body)
    (h' : IsBody body') (heq : body ++ '"' :: rest = body' ++ '"' :: rest') :
    body = body' ∧ rest = rest' := by
  have hskip : skipString (body.length + body'.length + 1) (body ++ '"' :: rest) = .ok rest :=
    skipString_of_isBody h (by omega) rest
  rw [heq, skipString_of_isBody h' (by omega) rest', Except.ok.injEq] at hskip
  subst hskip
  exact ⟨List.append_cancel_right heq, rfl⟩

theorem readString_of_spells {s : String} {body : List Char} (h : Spells s.toList body) {fuel : Nat}
    (hfuel : body.length < fuel) (rest : List Char) :
    readString fuel (body ++ '"' :: rest) = .ok (s, rest) := by
  rw [readString, readChars_of_spells h hfuel]
  simp only [bind, Except.bind, pure, Except.pure, String.ofList_toList]

/-- A string is read from between its quotes exactly if it is spelled there. -/
theorem readString_eq_ok_iff {body : List Char} (hbody : IsBody body) {fuel : Nat}
    (hfuel : body.length < fuel) {rest rest' : List Char} {s : String} :
    readString fuel (body ++ '"' :: rest) = .ok (s, rest') ↔
      Spells s.toList body ∧ rest' = rest := by
  constructor
  · have hyields : Yields (readString fuel (body ++ '"' :: rest)) fun r ↦
        Spells r.1.toList body ∧ r.2 = rest := by
      refine (yields_readChars fuel _).bind ?_
      rintro ⟨cs, rest₁⟩ ⟨body', hbody', heq⟩
      obtain ⟨rfl, rfl⟩ := hbody.eq_of_append hbody'.isBody heq
      exact yields_ok ⟨by rwa [String.toList_ofList], rfl⟩
    exact fun h ↦ hyields _ h
  · rintro ⟨hspells, rfl⟩
    exact readString_of_spells hspells hfuel rest'

end LiveFind.Json
