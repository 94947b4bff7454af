import Mathlib.Data.List.Basic
import LiveFind.Query

/-!
# Selections without equal items

`Query.dropSeen` keeps the first of equal items, given a set of those seen before. The set matters
only through which items it contains (`dropSeen_congr`), and everything about selections follows
from that and one induction each:

* appending to a collection appends to the selection what is accepted and not there yet
  (`select_append_singleton`);
* deleting all items equal to a given one from a collection deletes them from the selection
  (`select_filter_bne`).

Equality of items is only an equivalence: equal items may differ in their texts, so the statements
are about the stored items and not about their classes.
-/

namespace LiveFind

variable {α : Type} [BEq α]

/-- No two items of the list are equal. -/
def Distinct (l : List α) : Prop :=
  l.Pairwise fun a b ↦ (a == b) = false

theorem distinct_nil : Distinct ([] : List α) :=
  List.Pairwise.nil

theorem Distinct.filter {l : List α} (h : Distinct l) (p : α → Bool) : Distinct (l.filter p) :=
  List.Pairwise.filter p h

section Equivalence

variable [EquivBEq α]

theorem Distinct.append_singleton {l : List α} {a : α} (h : Distinct l)
    (ha : l.contains a = false) : Distinct (l ++ [a]) := by
  refine List.pairwise_append.2 ⟨h, List.pairwise_singleton _ _, ?_⟩
  intro b hb c hc
  rw [List.mem_singleton.1 hc]
  rw [← List.any_beq', List.any_eq_false] at ha
  simpa using ha b hb

/-- In a list without equal items, equal items are at the same place. -/
theorem Distinct.getElem_inj {l : List α} (hd : Distinct l) {i j : Nat}
    (hi : i < l.length) (hj : j < l.length) (heq : (l[i] == l[j]) = true) : i = j := by
  rw [Distinct, List.pairwise_iff_getElem] at hd
  rcases Nat.lt_trichotomy i j with hlt | hij | hgt
  · exact absurd heq (by rw [hd i j hi hj hlt]; exact Bool.false_ne_true)
  · exact hij
  · exact absurd (BEq.symm heq) (by rw [hd j i hj hi hgt]; exact Bool.false_ne_true)

/-- In a list without equal items each one is found at its own place. -/
theorem Distinct.findIdx_getElem {l : List α} (hd : Distinct l) {i : Nat}
    (hi : i < l.length) : l.findIdx (· == l[i]) = i :=
  (List.findIdx_eq hi).2 ⟨BEq.rfl, fun j hj ↦ List.pairwise_iff_getElem.1 hd j i _ hi hj⟩

/-- In a list without equal items, taking out the one at an index takes out all that equal it. -/
theorem Distinct.eraseIdx_eq_filter {l : List α} (h : Distinct l) {i : Nat} {a : α}
    (hi : i < l.length) (ha : (l[i] == a) = true) :
    l.eraseIdx i = l.filter fun b ↦ !(b == a) := by
  induction l generalizing i with
  | nil => exact absurd hi (Nat.not_lt_zero i)
  | cons b l ih =>
    obtain ⟨hb, hl⟩ := List.pairwise_cons.1 h
    cases i with
    | zero =>
      rw [List.getElem_cons_zero] at ha
      have hrest : l.filter (fun c ↦ !(c == a)) = l := by
        refine List.filter_eq_self.2 fun c hc ↦ ?_
        rw [Bool.not_eq_true', ← BEq.congr_right ha, BEq.comm]
        exact hb c hc
      rw [List.filter_cons_of_neg (by simpa using ha), hrest, List.eraseIdx_cons_zero]
    | succ i =>
      rw [List.getElem_cons_succ] at ha
      have hba : (b == a) = false := by
        rw [← BEq.congr_right ha]
        exact hb _ (List.getElem_mem _)
      rw [List.filter_cons_of_pos (by simpa using hba), List.eraseIdx_cons_succ, ih hl _ ha]

/-- Taking an item out of a list without equal items makes the part before a place shorter by one
if the item stands in it. -/
theorem Distinct.length_filter_take {l : List α} (h : Distinct l) {i : Nat} {a : α}
    (hi : i < l.length) (ha : (l[i] == a) = true) {k : Nat} (hk : k ≤ l.length) :
    ((l.take k).filter fun b ↦ !(b == a)).length = if i < k then k - 1 else k := by
  have htake : (l.take k).length = k := List.length_take_of_le hk
  split
  · rename_i hik
    have hik' : i < (l.take k).length := by rwa [htake]
    have hd : Distinct (l.take k) := List.Pairwise.sublist (List.take_sublist k l) h
    rw [← hd.eraseIdx_eq_filter hik' (by rwa [List.getElem_take]), List.length_eraseIdx_of_lt hik',
      htake]
  · rename_i hik
    rw [List.filter_eq_self.2, htake]
    intro b hb
    obtain ⟨j, hj, rfl⟩ := List.mem_iff_getElem.1 hb
    rw [htake] at hj
    rw [List.getElem_take, ← BEq.congr_right ha,
      List.pairwise_iff_getElem.1 h j i (by omega) hi (by omega)]
    rfl

end Equivalence

/-- Deleting the items equal to one does not matter to a choice that leaves them out anyway. -/
theorem filter_filter_bne {p : α → Bool} {a : α} (hp : ∀ b, p b = true → (b == a) = false)
    (l : List α) : (l.filter fun b ↦ !(b == a)).filter p = l.filter p := by
  rw [List.filter_filter]
  refine List.filter_congr fun b _ ↦ ?_
  by_cases hb : p b
  · simp [hb, hp b hb]
  · simp [hb]

namespace Query

variable [Hashable α] [EquivBEq α] [LawfulHashable α]

/-- Only what the set contains of the list matters. -/
theorem dropSeen_congr {l : List α} {s t : Std.HashSet α}
    (h : ∀ a ∈ l, s.contains a = t.contains a) : dropSeen s l = dropSeen t l := by
  induction l generalizing s t with
  | nil => rfl
  | cons a l ih =>
    have htail : ∀ b ∈ l, s.contains b = t.contains b := fun b hb ↦ h b (List.mem_cons_of_mem _ hb)
    rw [dropSeen, dropSeen, h a List.mem_cons_self, ih htail]
    congr 2
    refine ih fun b hb ↦ ?_
    rw [Std.HashSet.contains_insert, Std.HashSet.contains_insert, htail b hb]

/-- What is kept is in the list and was not seen before. -/
theorem contains_dropSeen (s : Std.HashSet α) (l : List α) (a : α) :
    (dropSeen s l).contains a = (!s.contains a && l.contains a) := by
  induction l generalizing s with
  | nil => simp [dropSeen]
  | cons b l ih =>
    rw [dropSeen]
    by_cases hba : a == b
    · have hs : s.contains a = s.contains b := Std.HashSet.contains_congr hba
      by_cases hb : s.contains b <;> simp [hb, hs, hba, ih]
    · have hab : (b == a) = false := by rw [BEq.comm]; simpa using hba
      by_cases hb : s.contains b <;>
        simp [hb, hba, hab, ih, Std.HashSet.contains_insert]

theorem distinct_dropSeen (s : Std.HashSet α) (l : List α) : Distinct (dropSeen s l) := by
  induction l generalizing s with
  | nil => exact distinct_nil
  | cons a l ih =>
    rw [dropSeen]
    split
    · exact ih s
    · refine List.pairwise_cons.2 ⟨fun b hb ↦ ?_, ih _⟩
      have hmem : (dropSeen (s.insert a) l).contains b := by
        exact List.contains_iff_exists_mem_beq.2 ⟨b, hb, BEq.rfl⟩
      rw [contains_dropSeen, Std.HashSet.contains_insert] at hmem
      simp only [Bool.and_eq_true, Bool.not_eq_true', Bool.or_eq_false_iff] at hmem
      exact hmem.1.1

/-- A list without equal items, none of them seen before, is kept as it is. -/
theorem dropSeen_eq_self {s : Std.HashSet α} {l : List α} (hs : ∀ a ∈ l, s.contains a = false)
    (hl : Distinct l) : dropSeen s l = l := by
  induction l generalizing s with
  | nil => rfl
  | cons a l ih =>
    obtain ⟨ha, hl⟩ := List.pairwise_cons.1 hl
    rw [dropSeen, hs a List.mem_cons_self, if_neg Bool.false_ne_true, ih (fun b hb ↦ ?_) hl]
    rw [Std.HashSet.contains_insert, ha b hb, hs b (List.mem_cons_of_mem _ hb), Bool.or_false]

theorem dropSeen_append_singleton (s : Std.HashSet α) (l : List α) (a : α) :
    dropSeen s (l ++ [a]) =
      dropSeen s l ++ if s.contains a || l.contains a then [] else [a] := by
  induction l generalizing s with
  | nil => by_cases ha : s.contains a <;> simp [dropSeen, ha]
  | cons b l ih =>
    rw [List.cons_append, dropSeen, dropSeen, ih, ih, Std.HashSet.contains_insert,
      List.contains_cons]
    by_cases hba : a == b
    · have hs : s.contains a = s.contains b := Std.HashSet.contains_congr hba
      by_cases hb : s.contains b <;> simp [hb, hs, hba, BEq.symm hba]
    · have hab : (b == a) = false := by rw [BEq.comm]; simpa using hba
      by_cases hb : s.contains b <;> simp [hb, hba, hab]

/-- Deleting all items equal to a given one commutes with keeping the first of equal ones. -/
theorem dropSeen_filter_bne (s : Std.HashSet α) (l : List α) (e : α) :
    dropSeen s (l.filter fun a ↦ !(a == e)) = (dropSeen s l).filter fun a ↦ !(a == e) := by
  induction l generalizing s with
  | nil => rfl
  | cons a l ih =>
    by_cases hae : a == e
    · -- all items that the insertion of `a` concerns are deleted
      have hset : dropSeen (s.insert a) (l.filter fun b ↦ !(b == e)) =
          dropSeen s (l.filter fun b ↦ !(b == e)) := by
        refine dropSeen_congr fun b hb ↦ ?_
        have hbe : (b == e) = false := by simpa using (List.mem_filter.1 hb).2
        have hab : (a == b) = false := by rw [BEq.congr_left hae, BEq.comm, hbe]
        rw [Std.HashSet.contains_insert, hab, Bool.false_or]
      rw [List.filter_cons_of_neg (by simpa using hae), dropSeen]
      split
      · exact ih s
      · rw [List.filter_cons_of_neg (by simpa using hae), ← ih, hset]
    · rw [List.filter_cons_of_pos (by simpa using hae), dropSeen, dropSeen]
      split
      · exact ih s
      · rw [List.filter_cons_of_pos (by simpa using hae), ih]

/-! ### Selections -/

variable [Findable α]

theorem distinct_select (q : Query) (l : List α) : Distinct (q.select l) :=
  distinct_dropSeen _ _

/-- The selection contains what the query accepts of the collection. -/
theorem contains_select (q : Query) (l : List α) (a : α) :
    (q.select l).contains a = (l.filter q.accepts).contains a := by
  rw [select, contains_dropSeen, Std.HashSet.contains_empty, Bool.not_false, Bool.true_and]

theorem select_eq_self {q : Query} {l : List α} (hq : ∀ a ∈ l, q.accepts a = true)
    (hl : Distinct l) : q.select l = l := by
  rw [select, List.filter_eq_self.2 hq]
  exact dropSeen_eq_self (fun _ _ ↦ Std.HashSet.contains_empty) hl

/-- Of what is appended to a collection, the selection gets what the query accepts and what it does
not have yet. -/
theorem select_append_singleton (q : Query) (l : List α) (a : α) :
    q.select (l ++ [a]) =
      q.select l ++ if !q.accepts a || (q.select l).contains a then [] else [a] := by
  rw [contains_select, select, select, List.filter_append]
  by_cases ha : q.accepts a
  · rw [List.filter_cons_of_pos ha, List.filter_nil, dropSeen_append_singleton,
      Std.HashSet.contains_empty, Bool.false_or, ha, Bool.not_true, Bool.false_or]
  · rw [List.filter_cons_of_neg ha, List.filter_nil]
    simp [ha]

/-- Deleting items from a collection deletes them from the selection. -/
theorem select_filter_bne (q : Query) (l : List α) (e : α) :
    q.select (l.filter fun a ↦ !(a == e)) = (q.select l).filter fun a ↦ !(a == e) := by
  rw [select, select, ← dropSeen_filter_bne, List.filter_filter, List.filter_filter]
  simp only [Bool.and_comm]

end Query

end LiveFind
