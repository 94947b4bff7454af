import Mathlib.Data.List.Induction
import LiveFind.Node
import LiveFind.Proofs.Query.Select

/-!
# The first of equal items

A selection keeps, of equal items that the query accepts, the one that stands first. `firstPlaces`
says where these stand without a set and without a recursion: an item is kept or not for what stands
before it. That the scan with a set of those seen gives the items at these places
(`dropSeen_filter`) is one induction from the end of the list, where both sides get the new item or
nothing. What two stretches of a collection give together, and that a selection is its own
selection, follows from which items a selection contains.
-/

namespace LiveFind

variable {α : Type} [BEq α]

/-- The places of the items with `p` that equal no earlier item with `p`, in ascending order. -/
def firstPlaces (p : α → Bool) (l : List α) : List Nat :=
  (List.range l.length).filter fun k ↦
    l[k]?.any fun a ↦ p a && !((l.take k).filter p).contains a

/-- The items with `p` that equal no earlier item with `p`, in their order. -/
def firsts (p : α → Bool) (l : List α) : List α :=
  (firstPlaces p l).filterMap (l[·]?)

variable {p : α → Bool} {l : List α}

theorem lt_of_mem_firstPlaces {k : Nat} (hk : k ∈ firstPlaces p l) : k < l.length :=
  List.mem_range.1 (List.mem_filter.1 hk).1

theorem firstPlaces_append_singleton (p : α → Bool) (l : List α) (a : α) :
    firstPlaces p (l ++ [a]) =
      firstPlaces p l ++ if p a && !(l.filter p).contains a then [l.length] else [] := by
  have hbefore : ∀ k ∈ List.range l.length,
      ((l ++ [a])[k]?.any fun b ↦ p b && !(((l ++ [a]).take k).filter p).contains b) =
        l[k]?.any fun b ↦ p b && !((l.take k).filter p).contains b := by
    intro k hk
    have hlt := List.mem_range.1 hk
    rw [List.getElem?_append_left hlt, List.take_append_of_le_length (Nat.le_of_lt hlt)]
  rw [firstPlaces, List.length_append, List.length_singleton, List.range_succ, List.filter_append,
    List.filter_congr hbefore, ← firstPlaces, List.filter_singleton, List.getElem?_concat_length,
    Option.any_some, List.take_left, Bool.cond_eq_ite]

theorem firsts_append_singleton (p : α → Bool) (l : List α) (a : α) :
    firsts p (l ++ [a]) =
      firsts p l ++ if p a && !(l.filter p).contains a then [a] else [] := by
  have hbefore : ∀ k ∈ firstPlaces p l, (l ++ [a])[k]? = l[k]? := fun k hk ↦
    List.getElem?_append_left (lt_of_mem_firstPlaces hk)
  rw [firsts, firstPlaces_append_singleton, List.filterMap_append, List.filterMap_congr hbefore,
    ← firsts]
  split
  · rw [List.filterMap_cons, List.getElem?_concat_length, List.filterMap_nil]
  · rw [List.filterMap_nil]

section Equivalence

variable [EquivBEq α]

/-- An item stands at one of these places if it has `p` and no earlier item with `p` equals it. -/
theorem mem_firstPlaces_iff {k : Nat} {a : α} (ha : l[k]? = some a) :
    k ∈ firstPlaces p l ↔
      p a = true ∧ ∀ b ∈ l.take k, p b = true → (b == a) = false := by
  have hlt : k < l.length := (List.getElem?_eq_some_iff.1 ha).1
  rw [firstPlaces, List.mem_filter, List.mem_range, and_iff_right hlt, ha, Option.any_some,
    Bool.and_eq_true, Bool.not_eq_true', ← List.any_beq', List.any_eq_false]
  simp only [List.mem_filter, Bool.not_eq_true, and_imp]

end Equivalence

namespace Query

variable [Hashable α] [EquivBEq α] [LawfulHashable α]

/-- The scan that keeps the first of equal items with `p` finds the items at the first places. -/
theorem dropSeen_filter (p : α → Bool) (l : List α) : dropSeen ∅ (l.filter p) = firsts p l := by
  induction l using List.reverseRecOn with
  | nil => rfl
  | append_singleton l a ih =>
    rw [List.filter_append, firsts_append_singleton, ← ih]
    by_cases ha : p a
    · rw [List.filter_cons_of_pos ha, List.filter_nil, dropSeen_append_singleton,
        Std.HashSet.contains_empty, Bool.false_or, ha, Bool.true_and]
      by_cases hcontains : (l.filter p).contains a <;> simp [hcontains]
    · simp [ha]

theorem dropSeen_eq_firsts (l : List α) : dropSeen ∅ l = firsts (fun _ ↦ true) l := by
  rw [← dropSeen_filter, List.filter_eq_self.2 fun _ _ ↦ rfl]

omit [EquivBEq α] [LawfulHashable α] in
theorem dropSeen_sublist (s : Std.HashSet α) (l : List α) : (dropSeen s l).Sublist l := by
  induction l generalizing s with
  | nil => exact List.Sublist.refl _
  | cons a l ih =>
    rw [dropSeen]
    split
    · exact (ih s).cons a
    · exact (ih (s.insert a)).cons_cons a

/-- Of two stretches, the second adds what it keeps on its own and the first has not kept. -/
theorem dropSeen_append (s : Std.HashSet α) (l more : List α) :
    dropSeen s (l ++ more) =
      dropSeen s l ++ (dropSeen s more).filter fun a ↦ !(dropSeen s l).contains a := by
  induction more using List.reverseRecOn with
  | nil => simp [dropSeen]
  | append_singleton more a ih =>
    have hcontains := contains_dropSeen s l a
    rw [← List.append_assoc, dropSeen_append_singleton, dropSeen_append_singleton, ih,
      List.filter_append, List.append_assoc]
    congr 2
    cases hs : s.contains a <;> cases hl : l.contains a <;> cases hm : more.contains a <;>
      simp_all

/-! ### Selections -/

variable [Findable α]

theorem select_eq_firsts (q : Query) (l : List α) : q.select l = firsts q.accepts l :=
  dropSeen_filter q.accepts l

omit [EquivBEq α] [LawfulHashable α] in
theorem accepts_of_mem_select {q : Query} {l : List α} {a : α} (ha : a ∈ q.select l) :
    q.accepts a = true :=
  List.of_mem_filter ((dropSeen_sublist _ _).subset ha)

/-- The selection of a collection: the items at the places where an item is accepted and equals no
earlier one that is accepted. So an item that is not accepted hides none. No two selected items are
equal, and every accepted item equals one of them. What is put behind a collection adds the items of
its own selection that are new, and a selection is its own selection. -/
theorem select_firsts (q : Query) (l : List α) :
    q.select l = (firstPlaces q.accepts l).filterMap (l[·]?) ∧
    (∀ k a, l[k]? = some a →
      (k ∈ firstPlaces q.accepts l ↔
        q.accepts a = true ∧ ∀ b ∈ l.take k, q.accepts b = true → (b == a) = false)) ∧
    (firstPlaces q.accepts l).Pairwise (· < ·) ∧
    Distinct (q.select l) ∧
    (∀ a ∈ l, q.accepts a = true → ∃ b ∈ q.select l, (b == a) = true) ∧
    (∀ more, q.select (l ++ more) =
      q.select l ++ (q.select more).filter fun a ↦ !(q.select l).contains a) ∧
    q.select (q.select l) = q.select l := by
  refine ⟨q.select_eq_firsts l, fun k a ha ↦ mem_firstPlaces_iff ha,
    List.Pairwise.filter _ List.pairwise_lt_range, q.distinct_select l, fun a ha haccepts ↦ ?_,
    fun more ↦ ?_, select_eq_self (fun a ↦ accepts_of_mem_select) (q.distinct_select l)⟩
  · have hcontains : (q.select l).contains a = true := by
      rw [contains_select]
      exact List.contains_iff_exists_mem_beq.2 ⟨a, List.mem_filter.2 ⟨ha, haccepts⟩, BEq.rfl⟩
    obtain ⟨b, hb, heq⟩ := List.contains_iff_exists_mem_beq.1 hcontains
    exact ⟨b, hb, BEq.symm heq⟩
  · rw [select, List.filter_append, dropSeen_append]
    rfl

/-- The first node is no filter, so it does not hide the second one, which has the same identifier.
The last node is hidden by the second. -/
theorem select_firsts_nodes :
    let sorter : Node := { id := "node:1", kind := "sorter", label := "Sorter" }
    let row : Node := { id := "node:1", kind := "filter", label := "Row" }
    let column : Node := { id := "node:2", kind := "filter", label := "Column" }
    let renamed : Node := { id := "node:1", kind := "filter", label := "Renamed" }
    let q := ofText .default "Filter"
    q.select [sorter, row, column, renamed] = [row, column] ∧
      (∃ b ∈ q.select [sorter, row, column, renamed], (b == renamed) = true) ∧
      q.select ([sorter, row] ++ [column, renamed]) =
        q.select [sorter, row] ++
          (q.select [column, renamed]).filter fun a ↦ !(q.select [sorter, row]).contains a := by
  intro sorter row column renamed q
  obtain ⟨hselect, -, -, -, hfound, -, -⟩ := select_firsts q [sorter, row, column, renamed]
  have hplaces : firstPlaces q.accepts [sorter, row, column, renamed] = [1, 2] := by
    decide +kernel
  have haccepts : q.accepts renamed = true := by decide +kernel
  refine ⟨?_, hfound renamed (by simp) haccepts,
    (select_firsts q [sorter, row]).2.2.2.2.2.1 [column, renamed]⟩
  rw [hselect, hplaces]
  rfl

end Query

end LiveFind
