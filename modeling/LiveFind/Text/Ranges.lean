/-!
# Tables of character ranges

A class of characters is a table: the ranges of its code points, both ends included, in ascending
order and apart. `covers_iff` says that the scan, which stops at the first range that can hold the
code point, finds exactly the members.
-/

namespace LiveFind.Text

/-- Whether some range of an ascending table holds the code point `n`. -/
def covers : List (Nat × Nat) → Nat → Bool
  | [], _ => false
  | (lo, hi) :: rest, n => if n ≤ hi then decide (lo ≤ n) else covers rest n

/-- The ranges are well formed, ascending and apart. -/
def Ascending (table : List (Nat × Nat)) : Prop :=
  (∀ r ∈ table, r.1 ≤ r.2) ∧ table.Pairwise fun r s ↦ r.2 < s.1

instance (table : List (Nat × Nat)) : Decidable (Ascending table) :=
  inferInstanceAs (Decidable (_ ∧ _))

@[simp] theorem covers_nil (n : Nat) : covers [] n = false := rfl

theorem covers_cons (lo hi : Nat) (rest : List (Nat × Nat)) (n : Nat) :
    covers ((lo, hi) :: rest) n = if n ≤ hi then decide (lo ≤ n) else covers rest n := rfl

/-- In an ascending table the scan finds exactly the members of the ranges. -/
theorem covers_iff {table : List (Nat × Nat)} (h : Ascending table) (n : Nat) :
    covers table n = true ↔ ∃ r ∈ table, r.1 ≤ n ∧ n ≤ r.2 := by
  induction table with
  | nil => simp
  | cons r rest ih =>
    obtain ⟨lo, hi⟩ := r
    obtain ⟨hwf, hpw⟩ := h
    have hrest : Ascending rest := ⟨fun s hs ↦ hwf s (by simp [hs]), (List.pairwise_cons.1 hpw).2⟩
    have hlt : ∀ s ∈ rest, hi < s.1 := fun s hs ↦ (List.pairwise_cons.1 hpw).1 s hs
    rw [covers_cons]
    by_cases hn : n ≤ hi
    · simp only [hn, if_true, decide_eq_true_eq, List.mem_cons, exists_eq_or_imp, and_true]
      constructor
      · exact Or.inl
      · rintro (h | ⟨s, hs, hlo, -⟩)
        · exact h
        · exact absurd (hlt s hs) (by omega)
    · simp only [hn, if_false, ih hrest, List.mem_cons, exists_eq_or_imp, and_false, false_or]

end LiveFind.Text
