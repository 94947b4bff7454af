import LiveFind.Node
import LiveFind.Proofs.Hits.Run

/-!
# Tracking is searching again

The hits of a search follow the changes of the collection one by one. `Change.edit` says what a
change does to the collection itself, and `Move.heeded` which changes of a run reach the hits: those
applied for an open view before the hits are retired.

The main result is `items_run_ofSearch`: after every run the items of the hits are those that the
same query selects from the collection with the heeded changes made. The invariant that carries it
is just this equation, and a change keeps it because selecting commutes with appending one item and
with deleting all items equal to one (`Query.select_append_singleton`, `Query.select_filter_bne`).
-/

namespace LiveFind

variable {α : Type} [BEq α]

/-- What a change does to the collection: an item is put at its end, or all items equal to one are
deleted. -/
def Change.edit (collection : List α) : Change α → List α
  | .added a => collection ++ [a]
  | .removed a => collection.filter fun b ↦ !(b == a)
  | .other => collection

omit [BEq α] in
/-- The changes of a run that hits have to follow: those for an open view, until the hits are
retired. -/
def Move.heeded : List (Move α) → List (Change α)
  | .change false c :: moves => c :: heeded moves
  | .change true _ :: moves | .next :: moves | .previous :: moves => heeded moves
  | .retire :: _ | [] => []

namespace Hits

variable [Hashable α] [Findable α]

/-- Retired hits keep their items. -/
theorem items_run_of_retired {h : Hits α} (hd : h.retired = true) (moves : List (Move α)) :
    (h.run moves).items = h.items := by
  induction moves generalizing h with
  | nil => rfl
  | cons m moves ih =>
    cases m with
    | next => obtain ⟨cursor, hc⟩ := h.exists_cursor_after_next; rw [run_cons, hc]; exact ih hd
    | previous =>
      obtain ⟨cursor, hc⟩ := h.exists_cursor_after_previous
      rw [run_cons, hc]
      exact ih hd
    | change viewClosed c =>
      have heq : h.after (.change viewClosed c) = h := apply_of_dropped (by simp [hd]) c
      rw [run_cons, heq]
      exact ih hd
    | retire => exact ih rfl

variable [EquivBEq α] [LawfulHashable α] {h : Hits α}

theorem Sound.items_apply_added (hs : h.Sound) (hr : h.retired = false) (a : α) :
    (h.apply false (.added a)).2.items =
      h.items ++ if !h.query.accepts a || h.items.contains a then [] else [a] := by
  rw [Hits.apply, hr, Bool.or_false, if_neg Bool.false_ne_true, add, hs.contains_members]
  split <;> simp

theorem Sound.items_apply_removed (hs : h.Sound) (hr : h.retired = false) (a : α) :
    (h.apply false (.removed a)).2.items = h.items.filter fun b ↦ !(b == a) := by
  rw [Hits.apply, hr, Bool.or_false, if_neg Bool.false_ne_true]
  by_cases ha : h.members.contains a
  · obtain ⟨i, hi, -, herase, heq⟩ := hs.remove_of_contains ha
    rw [heq]
    exact herase
  · rw [remove_of_not_contains (by simpa using ha), eq_comm, List.filter_eq_self]
    intro b hb
    rw [hs.contains_members, ← List.any_beq', List.any_eq_true] at ha
    simpa using fun hba ↦ ha ⟨b, hb, hba⟩

/-- A heeded change does to the items what it does to the collection they were selected from. -/
theorem Sound.items_apply_eq_select (hs : h.Sound) (hr : h.retired = false) {collection : List α}
    (hsel : h.items = h.query.select collection) (c : Change α) :
    (h.apply false c).2.items = h.query.select (c.edit collection) := by
  cases c with
  | added a => rw [hs.items_apply_added hr, Change.edit, Query.select_append_singleton, hsel]
  | removed a => rw [hs.items_apply_removed hr, Change.edit, Query.select_filter_bne, hsel]
  | other => exact hsel

/-- So do changes that are applied one after the other. -/
theorem Sound.items_applyAll (hs : h.Sound) (hr : h.retired = false) {collection : List α}
    (hsel : h.items = h.query.select collection) (changes : List (Change α)) :
    (h.applyAll changes).items = h.query.select (changes.foldl Change.edit collection) := by
  induction changes generalizing h collection with
  | nil => exact hsel
  | cons c changes ih =>
    obtain ⟨hquery, hretired⟩ := h.query_retired_apply false c
    have hitems := hs.items_apply_eq_select hr hsel c
    rw [← hquery] at hitems ⊢
    exact ih (hs.apply false c) (hretired.trans hr) hitems

/-- From sound hits that agree with a collection, a run leads to hits that agree with the edited
collection. -/
theorem Sound.items_run_eq_select (hs : h.Sound) (hr : h.retired = false) {collection : List α}
    (hsel : h.items = h.query.select collection) (moves : List (Move α)) :
    (h.run moves).items =
      h.query.select ((Move.heeded moves).foldl Change.edit collection) := by
  induction moves generalizing h collection with
  | nil => exact hsel
  | cons m moves ih =>
    rw [← query_after h m]
    cases m with
    | next =>
      obtain ⟨cursor, hc⟩ := h.exists_cursor_after_next
      exact ih (hs.after .next) (by rw [hc, hr]) (by rw [hc]; exact hsel)
    | previous =>
      obtain ⟨cursor, hc⟩ := h.exists_cursor_after_previous
      exact ih (hs.after .previous) (by rw [hc, hr]) (by rw [hc]; exact hsel)
    | change viewClosed c =>
      have hr' : (h.apply viewClosed c).2.retired = false :=
        (h.query_retired_apply viewClosed c).2.trans hr
      cases viewClosed with
      | false =>
        refine ih (hs.apply false c) hr' ?_
        rw [(h.query_retired_apply false c).1]
        exact hs.items_apply_eq_select hr hsel c
      | true =>
        have heq : h.after (.change true c) = h := apply_of_dropped (by simp) c
        rw [run_cons, heq]
        exact ih hs hr hsel
    | retire => exact (items_run_of_retired rfl moves).trans hsel

/-- Tracking is searching again: at every point of a run the items are those that the query selects
from the collection as it is by then, in its order and the very same values. -/
theorem items_run_ofSearch (p : Pattern) (raw : String) (collection : List α)
    (moves : List (Move α)) :
    ((ofSearch (Query.ofText p raw) collection).run moves).items =
      ((ofSearch (Query.ofText p raw) collection).run moves).query.select
        ((Move.heeded moves).foldl Change.edit collection) := by
  rw [query_run]
  exact (sound_ofSearch _ collection).items_run_eq_select rfl rfl moves

/-- A node is added again under its old identifier with another label, while the view is closed for
one change, and everything after the hits retire goes unheeded. -/
theorem items_run_ofSearch_nodes :
    let row : Node := { id := "node:1", kind := "filter", label := "Row" }
    let column : Node := { id := "node:2", kind := "filter", label := "Column" }
    let renamed : Node := { id := "node:1", kind := "filter", label := "Renamed" }
    let h := (ofSearch (Query.ofText .default "Filter") [row, column, renamed]).run
      [.next, .change false (.removed renamed), .change true (.removed column),
        .change false (.added renamed), .previous, .retire, .change false (.removed column)]
    h.items = h.query.select [column, renamed] :=
  items_run_ofSearch .default "Filter" _
    [.next, .change false (.removed _), .change true (.removed _), .change false (.added _),
      .previous, .retire, .change false (.removed _)]

end Hits

end LiveFind
