import LiveFind.Proofs.Hits.Run

/-!
# The ring of hits

`Hits.upcoming` are the items in the order in which stepping forward shows them: those after the
cursor, and then those up to it. On this list every operation is simple, whatever the cursor is:

* stepping forward moves the first item to the end (`Sound.upcoming_next`);
* taking an item out deletes it, and putting one at the end of the hits puts it somewhere into the
  list, and neither changes the order of the others (`Sound.upcoming_apply`).
-/

namespace LiveFind

namespace Hits

variable {α : Type} [BEq α] [Hashable α] {h : Hits α}

/-- The items in the order in which stepping forward shows them. -/
def upcoming (h : Hits α) : List α :=
  h.items.drop (h.cursor + 1).toNat ++ h.items.take (h.cursor + 1).toNat

theorem upcoming_perm (h : Hits α) : h.upcoming.Perm h.items := by
  have hparts : h.items.take (h.cursor + 1).toNat ++ h.items.drop (h.cursor + 1).toNat = h.items :=
    List.take_append_drop _ _
  exact hparts ▸ List.perm_append_comm

/-- The items come up in turn, starting after a place of the list. -/
theorem upcoming_eq_append {l r : List α} (hitems : h.items = l ++ r)
    (hcursor : h.cursor + 1 = l.length) : h.upcoming = r ++ l := by
  rw [upcoming, hitems, hcursor, Int.toNat_natCast, List.drop_left, List.take_left]

/-- The current item is the last one up to the cursor. -/
theorem current?_eq_getLast? {l r : List α} (hitems : h.items = l ++ r)
    (hcursor : h.cursor + 1 = l.length) : h.current? = l.getLast? := by
  rcases l.eq_nil_or_concat with rfl | ⟨l, a, rfl⟩
  · have hneg : h.cursor < 0 := by
      rw [List.length_nil] at hcursor
      omega
    rw [current?, if_pos hneg]
    rfl
  · have hlen : h.cursor = l.length := by
      rw [List.concat_eq_append, List.length_append, List.length_singleton] at hcursor
      omega
    rw [current?, if_neg (by omega), hlen, Int.toNat_natCast, hitems]
    simp

/-- Sound hits are cut in two by the cursor. -/
theorem Sound.exists_cut (hs : h.Sound) :
    ∃ l r, h.items = l ++ r ∧ h.cursor + 1 = l.length := by
  have hle := hs.neg_one_le_cursor
  have hlt := hs.cursor_lt
  refine ⟨h.items.take (h.cursor + 1).toNat, h.items.drop (h.cursor + 1).toNat,
    (List.take_append_drop _ _).symm, ?_⟩
  rw [List.length_take]
  omega

theorem Sound.contains_upcoming (hs : h.Sound) (a : α) :
    h.upcoming.contains a = h.items.contains a := by
  obtain ⟨l, r, hitems, hcursor⟩ := hs.exists_cut
  rw [upcoming_eq_append hitems hcursor, hitems, List.contains_append, List.contains_append,
    Bool.or_comm]

/-- Stepping forward fails for lack of hits, or shows the first of the upcoming items and puts it
last. -/
theorem Sound.upcoming_next (hs : h.Sound) :
    (h.items = [] ∧ h.next = .error .noHits) ∨
      ∃ a rest h', h.next = .ok (a, h') ∧ h.upcoming = a :: rest ∧ h'.upcoming = rest ++ [a] := by
  rcases hs.next_cases with hnone | ⟨i, hi, hindex, hok⟩
  · exact .inl hnone
  · right
    obtain ⟨l, r, hitems, hcursor⟩ := hs.exists_cut
    refine ⟨h.items[i], ?_⟩
    cases r with
    | nil =>
      -- the cursor is on the last item, so the ring starts again
      rw [List.append_nil] at hitems
      have hzero : i = 0 := by
        rw [if_neg (by rw [hitems, hcursor]; omega)] at hindex
        omega
      subst hzero
      obtain ⟨b, l, rfl⟩ := List.exists_cons_of_length_pos (hitems ▸ hi)
      have hb : h.items[0] = b := by simp [hitems]
      refine ⟨l, _, hok, ?_, ?_⟩
      · rw [upcoming_eq_append (r := []) (by rw [hitems, List.append_nil]) hcursor, hb]
        rfl
      · rw [hb]
        exact upcoming_eq_append (l := [b]) hitems rfl
    | cons b r =>
      have hlt : h.cursor + 1 < h.items.length := by
        rw [hitems, hcursor, List.length_append, List.length_cons]
        omega
      have hlen : i = l.length := by
        rw [if_pos hlt] at hindex
        omega
      have hb : h.items[i] = b := by simp [hitems, hlen]
      refine ⟨r ++ l, _, hok, ?_, ?_⟩
      · rw [upcoming_eq_append hitems hcursor, hb]
        rfl
      · rw [hb, List.append_assoc]
        exact upcoming_eq_append (l := l ++ [b]) (by simp [hitems]) (by simp [hlen])

/-- Taking an item out of the hits takes it out of those upcoming. -/
theorem Sound.upcoming_eraseIdx (hs : h.Sound) {i : Nat} (hi : i < h.items.length) {h' : Hits α}
    (hitems' : h'.items = h.items.eraseIdx i)
    (hcursor' : h'.cursor = if (i : Int) ≤ h.cursor then h.cursor - 1 else h.cursor) :
    ∃ (j : Nat) (hj : j < h.upcoming.length),
      h.upcoming[j] = h.items[i] ∧ h'.upcoming = h.upcoming.eraseIdx j := by
  obtain ⟨l, r, hitems, hcursor⟩ := hs.exists_cut
  have hup := upcoming_eq_append hitems hcursor
  by_cases hil : i < l.length
  · -- the item stands before the cursor or on it, so it would come up in the second part
    have hcut : h'.items = l.eraseIdx i ++ r := by
      rw [hitems', hitems, List.eraseIdx_append_of_lt_length hil]
    have hlen := List.length_eraseIdx_add_one hil
    rw [if_pos (by omega)] at hcursor'
    refine ⟨r.length + i, by rw [hup, List.length_append]; omega, ?_, ?_⟩
    · simp [hup, hitems, hil]
    · rw [upcoming_eq_append hcut (by omega), hup,
        List.eraseIdx_append_of_length_le (Nat.le_add_right _ _), Nat.add_sub_cancel_left]
  · have hlen : i < l.length + r.length := by rwa [hitems, List.length_append] at hi
    have hcut : h'.items = l ++ r.eraseIdx (i - l.length) := by
      rw [hitems', hitems, List.eraseIdx_append_of_length_le (Nat.le_of_not_lt hil)]
    rw [if_neg (by omega)] at hcursor'
    refine ⟨i - l.length, by rw [hup, List.length_append]; omega, ?_, ?_⟩
    · simp only [hup, hitems]
      rw [List.getElem_append_left (by omega), List.getElem_append_right (by omega)]
    · rw [upcoming_eq_append hcut (by omega), hup,
        List.eraseIdx_append_of_lt_length (by omega)]

variable [EquivBEq α]

theorem Sound.distinct_upcoming (hs : h.Sound) : Distinct h.upcoming := by
  obtain ⟨l, r, hitems, hcursor⟩ := hs.exists_cut
  rw [upcoming_eq_append hitems hcursor]
  have hd := hs.distinct
  rw [hitems] at hd
  exact (List.pairwise_append_comm fun hab ↦ by rwa [BEq.comm]).1 hd

variable [LawfulHashable α] [Findable α]

/-- A change deletes one of the upcoming items, puts a new one among them, or leaves the hits as
they are. -/
theorem Sound.upcoming_apply (hs : h.Sound) (viewClosed : Bool) (c : Change α) :
    (∃ a index wasCurrent, (h.apply viewClosed c).1 = .removed index wasCurrent ∧
      h.items.contains a = true ∧ (h.apply viewClosed c).2.items.contains a = false ∧
      (h.apply viewClosed c).2.upcoming = h.upcoming.filter fun b ↦ !(b == a)) ∨
    (∃ a u v index, (h.apply viewClosed c).1 = .appended index ∧
      h.items.contains a = false ∧ h.upcoming = u ++ v ∧
      (h.apply viewClosed c).2.upcoming = u ++ a :: v) ∨
    (∃ o, (o = .ignored ∨ o = .dropped) ∧ h.apply viewClosed c = (o, h)) := by
  obtain ⟨l, r, hitems, hcursor⟩ := hs.exists_cut
  have hup := upcoming_eq_append hitems hcursor
  rcases hs.apply_cases viewClosed c with
    ⟨a, i, hi, -, ha, herase, heq⟩ | ⟨a, -, ha, heq⟩ | hsame
  · left
    have hitems' : (h.apply viewClosed c).2.items = h.items.eraseIdx i := by rw [heq]
    have hcursor' : (h.apply viewClosed c).2.cursor =
        if (i : Int) ≤ h.cursor then h.cursor - 1 else h.cursor := by rw [heq]
    obtain ⟨j, hj, hja, hj'⟩ := hs.upcoming_eraseIdx hi hitems' hcursor'
    refine ⟨a, i, _, by rw [heq], ?_, ?_, ?_⟩
    · exact List.contains_iff_exists_mem_beq.2 ⟨_, List.getElem_mem hi, BEq.symm ha⟩
    · rw [heq, herase, ← List.any_beq', List.any_filter]
      simp
    · rw [hj']
      exact hs.distinct_upcoming.eraseIdx_eq_filter hj (by rw [hja]; exact ha)
  · right; left
    have hitems' : (h.apply viewClosed c).2.items = l ++ (r ++ [a]) := by
      rw [heq, ← List.append_assoc, ← hitems]
    refine ⟨a, r, l, _, by rw [heq], ha, hup, ?_⟩
    rw [upcoming_eq_append hitems' (by rw [heq]; exact hcursor), ← List.append_cons]
  · exact .inr (.inr hsame)

end Hits

end LiveFind
