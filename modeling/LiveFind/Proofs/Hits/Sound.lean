import LiveFind.Hits
import LiveFind.Proofs.Query.Select

/-!
# Sound hits

Hits keep their items twice, in order and as a set, and point into them with a cursor. `Hits.Sound`
says that these three fit together: no two items are equal, the set holds exactly the stored items,
and the cursor is -1 or the index of an item.

* Every way to set up hits is sound (`sound_ofSearch`, `sound_ofMatches`), and every operation keeps
  hits sound.
* What an operation does to sound hits is said once for each: `Sound.next_cases`,
  `Sound.previous_cases` and `Sound.apply_cases`. There is no case for an index out of range, nor
  one for an item of the set that is not found in order.
-/

namespace LiveFind

namespace Hits

variable {α : Type} [BEq α] [Hashable α]

/-- The items, the set and the cursor fit together. -/
structure Sound (h : Hits α) : Prop where
  /-- No two items are equal. -/
  distinct : Distinct h.items
  /-- The set gives back the stored item for every item equal to it, and nothing else. -/
  get?_members : ∀ a, h.members.get? a = h.items.find? (· == a)
  neg_one_le_cursor : -1 ≤ h.cursor
  cursor_lt : h.cursor < h.items.length

variable {h : Hits α}

/-! ### Stepping -/

theorem Sound.withCursor (hs : h.Sound) {i : Nat} (hi : i < h.items.length) :
    Sound { h with cursor := i } where
  distinct := hs.distinct
  get?_members := hs.get?_members
  neg_one_le_cursor := by show (-1 : Int) ≤ (i : Int); omega
  cursor_lt := by show (i : Int) < h.items.length; omega

theorem moveTo_of_lt {i : Nat} (hi : i < h.items.length) :
    h.moveTo i = .ok (h.items[i], { h with cursor := i }) := by
  rw [moveTo, List.getElem?_eq_getElem hi]

theorem next_of_ne_nil (hne : h.items ≠ []) :
    h.next = h.moveTo (if h.cursor + 1 < h.items.length then (h.cursor + 1).toNat else 0) := by
  rw [next, List.isEmpty_eq_false_iff.2 hne]
  rfl

theorem previous_of_ne_nil (hne : h.items ≠ []) :
    h.previous =
      h.moveTo (if 0 < h.cursor then (h.cursor - 1).toNat else h.items.length - 1) := by
  rw [previous, List.isEmpty_eq_false_iff.2 hne]
  rfl

/-- Stepping forward fails for lack of hits or shows the next item of the ring. -/
theorem Sound.next_cases (hs : h.Sound) :
    (h.items = [] ∧ h.next = .error .noHits) ∨
      ∃ (i : Nat) (hi : i < h.items.length),
        (i : Int) = (if h.cursor + 1 < h.items.length then h.cursor + 1 else 0) ∧
          h.next = .ok (h.items[i], { h with cursor := i }) := by
  have hcursor := hs.neg_one_le_cursor
  by_cases hnil : h.items = []
  · exact .inl ⟨hnil, by simp [next, hnil]⟩
  · right
    have hlen : 0 < h.items.length := List.length_pos_iff.2 hnil
    rw [next_of_ne_nil hnil]
    by_cases hlt : h.cursor + 1 < h.items.length
    · rw [if_pos hlt, if_pos hlt]
      exact ⟨(h.cursor + 1).toNat, by omega, by omega, moveTo_of_lt _⟩
    · rw [if_neg hlt, if_neg hlt]
      exact ⟨0, hlen, rfl, moveTo_of_lt hlen⟩

/-- Stepping backward fails for lack of hits or shows the previous item of the ring. -/
theorem Sound.previous_cases (hs : h.Sound) :
    (h.items = [] ∧ h.previous = .error .noHits) ∨
      ∃ (i : Nat) (hi : i < h.items.length),
        (i : Int) = (if 0 < h.cursor then h.cursor - 1 else h.items.length - 1) ∧
          h.previous = .ok (h.items[i], { h with cursor := i }) := by
  have hcursor := hs.cursor_lt
  by_cases hnil : h.items = []
  · exact .inl ⟨hnil, by simp [previous, hnil]⟩
  · right
    have hlen : 0 < h.items.length := List.length_pos_iff.2 hnil
    rw [previous_of_ne_nil hnil]
    by_cases hlt : 0 < h.cursor
    · rw [if_pos hlt, if_pos hlt]
      exact ⟨(h.cursor - 1).toNat, by omega, by omega, moveTo_of_lt _⟩
    · rw [if_neg hlt, if_neg hlt]
      exact ⟨h.items.length - 1, by omega, by omega, moveTo_of_lt _⟩

/-! ### Changes that leave the hits as they are -/

theorem remove_of_not_contains {a : α} (ha : h.members.contains a = false) :
    h.remove a = (.ignored, h) := by
  rw [remove, if_neg (by simp [ha])]

theorem Sound.retire (hs : h.Sound) : h.retire.Sound :=
  { hs with }

section

variable [Findable α]

theorem add_of_ignored {a : α} (ha : (!h.query.accepts a || h.members.contains a) = true) :
    h.add a = (.ignored, h) := by
  rw [add, if_pos ha]

/-- Hits that are retired, or whose view is closed, stay as they are. -/
theorem apply_of_dropped {viewClosed : Bool} (hd : (h.retired || viewClosed) = true)
    (c : Change α) : (h.apply viewClosed c).2 = h := by
  cases c <;> simp [apply, hd]

end

/-! ### Sets that follow a list -/

section Lawful

variable [EquivBEq α] [LawfulHashable α]

theorem Sound.contains_members (hs : h.Sound) (a : α) :
    h.members.contains a = h.items.contains a := by
  rw [← Std.HashSet.isSome_get?_eq_contains, hs.get?_members, ← List.any_beq', List.isSome_find?]

/-! ### Setting up -/

theorem get?_ofList {l : List α} (hl : Distinct l) (a : α) :
    (Std.HashSet.ofList l).get? a = l.find? (· == a) := by
  rcases hf : l.find? (· == a) with - | b
  · refine Std.HashSet.get?_ofList_of_contains_eq_false ?_
    rw [← List.any_beq', ← List.isSome_find?, hf, Option.isSome_none]
  · have hba : (b == a) = true := List.find?_some (p := fun x ↦ x == a) hf
    exact Std.HashSet.get?_ofList_of_mem hba hl (List.mem_of_find?_eq_some hf)

theorem sound_ofItems {q : Query} {l : List α} {cursor : Int} (hl : Distinct l)
    (hle : -1 ≤ cursor) (hlt : cursor < l.length) : (ofItems q l cursor).Sound where
  distinct := hl
  get?_members := get?_ofList hl
  neg_one_le_cursor := hle
  cursor_lt := hlt

omit [EquivBEq α] [LawfulHashable α] in
@[simp]
theorem items_ofSearch [Findable α] (q : Query) (collection : List α) :
    (ofSearch q collection).items = q.select collection :=
  rfl

/-- If the query accepts all of a collection, and no two of it are equal, then all of it is hit. -/
theorem ofSearch_eq_ofItems [Findable α] {q : Query} {l : List α}
    (hq : ∀ a ∈ l, q.accepts a = true) (hl : Distinct l) : ofSearch q l = ofItems q l (-1) := by
  rw [ofSearch, Query.select_eq_self hq hl]

theorem sound_ofSearch [Findable α] (q : Query) (collection : List α) :
    (ofSearch q collection).Sound :=
  sound_ofItems (q.distinct_select collection) (by omega) (by omega)

/-- The start item is always found among the matches that are kept. -/
theorem exists_findIdx?_dropSeen {l : List α} {a : α} (ha : a ∈ l) :
    ∃ i, (Query.dropSeen ∅ l).findIdx? (· == a) = some i ∧ i < (Query.dropSeen ∅ l).length := by
  have hkept : (Query.dropSeen ∅ l).contains a := by
    simpa [Query.contains_dropSeen] using List.contains_iff_exists_mem_beq.2 ⟨a, ha, BEq.rfl⟩
  rw [← List.any_beq', ← List.findIdx?_isSome] at hkept
  obtain ⟨i, hi⟩ := Option.isSome_iff_exists.1 hkept
  exact ⟨i, hi, (List.findIdx?_eq_some_iff_getElem.1 hi).1⟩

theorem sound_ofMatches {q : Query} {l : List α} {start : Nat} {h : Hits α}
    (hok : ofMatches q l start = .ok h) : h.Sound := by
  rw [ofMatches] at hok
  split at hok
  · rename_i a ha
    obtain ⟨i, hi, hlt⟩ := exists_findIdx?_dropSeen (List.mem_of_getElem? ha)
    cases hok
    exact sound_ofItems (Query.distinct_dropSeen ∅ l) (by omega) (by rw [hi]; exact_mod_cast hlt)
  · split at hok
    · cases hok
      exact sound_ofItems distinct_nil (by omega) (by simp)
    · cases hok

/-! ### Changes -/

/-- What is in the set is found in order, and it is the only item that goes. -/
theorem Sound.remove_of_contains (hs : h.Sound) {a : α} (ha : h.members.contains a) :
    ∃ (i : Nat) (hi : i < h.items.length),
      (h.items[i] == a) = true ∧
        h.items.eraseIdx i = (h.items.filter fun b ↦ !(b == a)) ∧
        h.remove a =
          ( .removed i ((i : Int) == h.cursor)
          , { h with
              members := h.members.erase a
              items := h.items.eraseIdx i
              cursor := if (i : Int) ≤ h.cursor then h.cursor - 1 else h.cursor } ) := by
  have hin : (h.items.findIdx? (· == a)).isSome := by
    rw [List.findIdx?_isSome, List.any_beq', ← hs.contains_members, ha]
  obtain ⟨i, hi⟩ := Option.isSome_iff_exists.1 hin
  obtain ⟨hlt, heq, -⟩ := List.findIdx?_eq_some_iff_getElem.1 hi
  refine ⟨i, hlt, heq, hs.distinct.eraseIdx_eq_filter hlt heq, ?_⟩
  rw [remove, if_pos ha, hi]

theorem Sound.eraseIdx (hs : h.Sound) {a : α} {i : Nat} (hi : i < h.items.length)
    (herase : h.items.eraseIdx i = h.items.filter fun b ↦ !(b == a)) :
    Sound { h with
      members := h.members.erase a
      items := h.items.eraseIdx i
      cursor := if (i : Int) ≤ h.cursor then h.cursor - 1 else h.cursor } where
  distinct := by
    show Distinct (h.items.eraseIdx i)
    rw [herase]
    exact hs.distinct.filter _
  get?_members b := by
    show (h.members.erase a).get? b = (h.items.eraseIdx i).find? (· == b)
    rw [herase, List.find?_filter, Std.HashSet.get?_erase, hs.get?_members]
    by_cases hab : a == b
    · rw [if_pos hab, eq_comm, List.find?_eq_none]
      intro c _ hc
      simp only [Bool.not_eq_true', decide_eq_true_eq] at hc
      rw [BEq.congr_right hab, hc.2] at hc
      exact absurd hc.1 (by simp)
    · rw [if_neg hab]
      congr 1
      funext c
      by_cases hcb : c == b
      · rw [hcb, BEq.congr_left hcb, BEq.comm]
        simpa using hab
      · simp [hcb]
  neg_one_le_cursor := by
    have hle := hs.neg_one_le_cursor
    show (-1 : Int) ≤ if (i : Int) ≤ h.cursor then h.cursor - 1 else h.cursor
    split <;> omega
  cursor_lt := by
    have hlt := hs.cursor_lt
    have hlen := List.length_eraseIdx_add_one hi
    show (if (i : Int) ≤ h.cursor then h.cursor - 1 else h.cursor) <
      ((h.items.eraseIdx i).length : Int)
    split <;> omega

theorem Sound.add_of_new [Findable α] (hs : h.Sound) {a : α} (hq : h.query.accepts a)
    (ha : h.items.contains a = false) :
    h.add a =
      ( .appended h.items.length
      , { h with members := h.members.insert a, items := h.items ++ [a] } ) := by
  rw [add, if_neg (by simp [hq, hs.contains_members, ha])]

theorem Sound.append (hs : h.Sound) {a : α} (ha : h.items.contains a = false) :
    Sound { h with members := h.members.insert a, items := h.items ++ [a] } where
  distinct := hs.distinct.append_singleton ha
  get?_members b := by
    show (h.members.insert a).get? b = (h.items ++ [a]).find? (· == b)
    have hmem : ¬a ∈ h.members := by
      rw [Std.HashSet.mem_iff_contains, hs.contains_members, ha]
      exact Bool.false_ne_true
    rw [Std.HashSet.get?_insert, List.find?_append, hs.get?_members, List.find?_singleton]
    by_cases hab : a == b
    · have hnone : h.items.find? (· == b) = none := by
        rw [← Option.not_isSome_iff_eq_none, List.isSome_find?, List.any_beq',
          ← List.contains_congr hab, ha]
        exact Bool.false_ne_true
      rw [if_pos ⟨hab, hmem⟩, if_pos hab, hnone, Option.none_or]
    · rw [if_neg (fun hc ↦ hab hc.1), if_neg hab, Option.or_none]
  neg_one_le_cursor := hs.neg_one_le_cursor
  cursor_lt := by
    have hlt := hs.cursor_lt
    show h.cursor < ((h.items ++ [a]).length : Int)
    rw [List.length_append]
    omega

variable [Findable α]

/-- A change takes one item out, puts one at the end, or leaves the hits as they are. -/
theorem Sound.apply_cases (hs : h.Sound) (viewClosed : Bool) (c : Change α) :
    (∃ (a : α) (i : Nat) (hi : i < h.items.length),
      c = .removed a ∧ (h.items[i] == a) = true ∧
        h.items.eraseIdx i = (h.items.filter fun b ↦ !(b == a)) ∧
        h.apply viewClosed c =
          ( .removed i ((i : Int) == h.cursor)
          , { h with
              members := h.members.erase a
              items := h.items.eraseIdx i
              cursor := if (i : Int) ≤ h.cursor then h.cursor - 1 else h.cursor } )) ∨
    (∃ a, c = .added a ∧ h.items.contains a = false ∧
      h.apply viewClosed c =
        ( .appended h.items.length
        , { h with members := h.members.insert a, items := h.items ++ [a] } )) ∨
    (∃ o, (o = .ignored ∨ o = .dropped) ∧ h.apply viewClosed c = (o, h)) := by
  by_cases hd : (h.retired || viewClosed) = true
  · right; right
    cases c <;> simp [apply, hd]
  · cases c with
    | removed a =>
      rw [apply, if_neg hd]
      by_cases ha : h.members.contains a
      · obtain ⟨i, hi, heq, herase, hremove⟩ := hs.remove_of_contains ha
        exact .inl ⟨a, i, hi, rfl, heq, herase, hremove⟩
      · exact .inr (.inr ⟨.ignored, .inl rfl, remove_of_not_contains (by simpa using ha)⟩)
    | added a =>
      rw [apply, if_neg hd]
      by_cases ha : (!h.query.accepts a || h.members.contains a) = true
      · exact .inr (.inr ⟨.ignored, .inl rfl, add_of_ignored ha⟩)
      · rw [Bool.not_eq_true, Bool.or_eq_false_iff, hs.contains_members] at ha
        exact .inr (.inl ⟨a, rfl, ha.2, hs.add_of_new (by simpa using ha.1) ha.2⟩)
    | other => exact .inr (.inr ⟨.ignored, .inl rfl, rfl⟩)

/-- The removal of the item at an index, if the hits are not retired. -/
theorem Sound.apply_removed_getElem (hs : h.Sound) (hr : h.retired = false) (i : Nat)
    (hi : i < h.items.length) {a : α} (ha : (h.items[i] == a) = true) :
    h.apply false (.removed a) =
      ( .removed i ((i : Int) == h.cursor)
      , { h with
          members := h.members.erase a
          items := h.items.eraseIdx i
          cursor := if (i : Int) ≤ h.cursor then h.cursor - 1 else h.cursor } ) := by
  have hin : h.members.contains a = true := by
    rw [hs.contains_members]
    exact List.contains_iff_exists_mem_beq.2 ⟨_, List.getElem_mem hi, BEq.symm ha⟩
  obtain ⟨j, hj, hja, -, hremove⟩ := hs.remove_of_contains hin
  obtain rfl := hs.distinct.getElem_inj hi hj (BEq.trans ha (BEq.symm hja))
  rw [Hits.apply, if_neg (by simp [hr]), hremove]

theorem Sound.apply (hs : h.Sound) (viewClosed : Bool) (c : Change α) :
    (h.apply viewClosed c).2.Sound := by
  rcases hs.apply_cases viewClosed c with
    ⟨a, i, hi, -, -, herase, heq⟩ | ⟨a, -, ha, heq⟩ | ⟨o, -, heq⟩
  · rw [heq]; exact hs.eraseIdx hi herase
  · rw [heq]; exact hs.append ha
  · rw [heq]; exact hs

end Lawful

end Hits

end LiveFind
