import LiveFind.Json.Printer
import LiveFind.Json.Reader
import LiveFind.Proofs.Json.Numbers
import LiveFind.Proofs.Json.Strings

/-!
# Strings and whole numbers are read back

What is written of a string or of a whole number within 64 bits is read as that string or number,
whatever follows. A string is written as what spells it (`spells_escaped`), and the digits of a
number start with a zero only if there is no other one (`isWhole_toDigits`); the rest is said of the
readers.
-/

namespace LiveFind.Json

/-! ### Strings -/

theorem hexValue?_digitChar {n : Nat} (hn : n < 16) :
    Text.hexValue? (Nat.digitChar n) = some n := by
  have hall : ∀ n < 16, Text.hexValue? (Nat.digitChar n) = some n := by decide
  exact hall n hn

/-- The numbered escape of a control character. -/
theorem isCodeUnit_control {n : Nat} (hn : n < 0x20) :
    IsCodeUnit n ['0', '0', Nat.digitChar (n / 16), Nat.digitChar (n % 16)] := by
  have hzero : Text.hexValue? '0' = some 0 := by decide
  have hunit := IsCodeUnit.mk hzero hzero (hexValue?_digitChar (n := n / 16) (by omega))
    (hexValue?_digitChar (n := n % 16) (by omega))
  have hvalue : ((0 * 16 + 0) * 16 + n / 16) * 16 + n % 16 = n := by omega
  rwa [hvalue] at hunit

/-- A character is written as what spells it. -/
theorem Spells.escapeChar_append {cs body : List Char} (h : Spells cs body) (c : Char) :
    Spells (c :: cs) (escapeChar c ++ body) := by
  by_cases hshort : c ∈ ['"', '\\', '\x08', '\t', '\n', '\x0c', '\r']
  · simp only [List.mem_cons, List.not_mem_nil, or_false] at hshort
    rcases hshort with rfl | rfl | rfl | rfl | rfl | rfl | rfl <;>
      exact .short (by decide) h
  · simp only [List.mem_cons, List.not_mem_nil, or_false, not_or] at hshort
    obtain ⟨h1, h2, h3, h4, h5, h6, h7⟩ := hshort
    rw [escapeChar, if_neg h1, if_neg h2, if_neg h3, if_neg h4, if_neg h5, if_neg h6, if_neg h7]
    split
    · rename_i hcontrol
      have hhigh : ¬IsHigh c.toNat := by
        unfold IsHigh
        omega
      have hlow : ¬IsLow c.toNat := by
        unfold IsLow
        omega
      have hunit := Spells.unit (isCodeUnit_control hcontrol) hhigh hlow h
      rwa [Char.ofNat_toNat] at hunit
    · rename_i hcontrol
      exact .plain ⟨h1, h2, Nat.not_lt.1 hcontrol⟩ h

theorem spells_escaped (cs : List Char) : Spells cs (cs.flatMap escapeChar) := by
  induction cs with
  | nil => exact .nil
  | cons c cs ih => exact ih.escapeChar_append c

theorem isString_writeString (s : String) : IsString s (writeString s) :=
  ⟨_, spells_escaped s.toList, rfl⟩

theorem writeString_append (s : String) (rest : List Char) :
    writeString s ++ rest = '"' :: (s.toList.flatMap escapeChar ++ '"' :: rest) := by
  simp [writeString]

/-- A string is read back from behind its opening quote. -/
theorem readString_escaped {fuel : Nat} {s : String} (hfuel : (writeString s).length ≤ fuel + 1)
    (rest : List Char) :
    readString fuel (s.toList.flatMap escapeChar ++ '"' :: rest) = .ok (s, rest) := by
  refine readString_of_spells (spells_escaped s.toList) ?_ rest
  rw [writeString, List.length_append, List.length_cons, List.length_singleton] at hfuel
  omega

/-! ### Whole numbers -/

theorem head?_toDigits_ne_zero {n : Nat} (hn : 0 < n) : (Nat.toDigits 10 n).head? ≠ some '0' := by
  induction n using Nat.strongRecOn with
  | ind n ih =>
    rw [Nat.toDigits_eq_if (by decide)]
    split
    · rw [List.head?_cons, ne_eq, Option.some.injEq, Nat.digitChar_eq_zero]
      omega
    · rw [List.head?_append, List.head?_eq_some_head Nat.toDigits_ne_nil, Option.some_or,
        ← List.head?_eq_some_head]
      exact ih (n / 10) (by omega) (by omega)

theorem isWhole_toDigits (n : Nat) : IsWhole (Nat.toDigits 10 n) := by
  refine ⟨⟨Nat.toDigits_ne_nil, fun c hc ↦ Nat.isDigit_of_mem_toDigits (by decide) (by decide) hc⟩,
    fun hzero ↦ ?_⟩
  cases n with
  | zero => rfl
  | succ n => exact absurd hzero (head?_toDigits_ne_zero (Nat.succ_pos n))

/-- The digits of a magnitude within 64 bits are read as a whole number. -/
theorem readMagnitude_toDigits {n : Nat} (hn : n ≤ significandLimit) {rest : List Char}
    (hrest : EndsNumber rest) (negative : Bool) :
    readMagnitude negative (Nat.toDigits 10 n ++ rest) = .ok (wholeNumber negative n, rest) := by
  have hread := readMagnitude_of_le (isWhole_toDigits n) (by rwa [Nat.ofDigitChars_ten_toDigits])
    hrest negative
  rwa [Nat.ofDigitChars_ten_toDigits] at hread

/-- A whole number starts with its sign or with a digit. -/
theorem exists_writeInt_eq_cons (n : Int) :
    ∃ c cs, writeInt n = c :: cs ∧ (c = '-' ∨ c.isDigit = true) := by
  rw [writeInt]
  split
  · exact ⟨_, _, rfl, .inl rfl⟩
  · obtain ⟨c, digits, heq, hdigit⟩ := (isWhole_toDigits n.natAbs).1.exists_cons
    exact ⟨c, digits, heq, .inr hdigit⟩

/-- A whole number within 64 bits is read back, if the text behind does not go on with it. -/
theorem readNumber_writeInt {n : Int} (hle : -negativeLimit ≤ n) (hlt : n ≤ significandLimit)
    {rest : List Char} (hrest : EndsNumber rest) :
    readNumber (writeInt n ++ rest) = .ok (.int n, rest) := by
  have hlimits : negativeLimit ≤ significandLimit := by decide
  have hmagnitude := readMagnitude_toDigits (n := n.natAbs) (by omega) hrest
  rw [writeInt]
  split
  · rename_i hneg
    have hin : 0 < n.natAbs ∧ n.natAbs ≤ negativeLimit := by omega
    have hvalue : -(n.natAbs : Int) = n := by omega
    rw [List.cons_append, readNumber, hmagnitude, wholeNumber, if_neg (by decide), if_pos hin,
      hvalue]
  · rename_i hpos
    have hvalue : (n.natAbs : Int) = n := by omega
    obtain ⟨c, digits, heq, hdigit⟩ := (isWhole_toDigits n.natAbs).1.exists_cons
    rw [heq, List.cons_append] at hmagnitude ⊢
    rw [readNumber_of_isDigit hdigit, hmagnitude, wholeNumber, if_pos (by decide), hvalue]

end LiveFind.Json
