import LiveFind.Proofs.Hits.Sound

/-!
# Runs of hits

What can be done with the hits of one search, move by move, and what a run of moves shows and
answers. A change is applied for a view that is open or closed at that time, whatever it was before.

`Hits.Reachable` are the hits that a run leads to from a new search or from a list of matches.
Reachable hits are sound (`Reachable.sound`), and so are those of any run from sound ones.
-/

namespace LiveFind

/-- What can be done with hits. -/
inductive Move (α : Type)
  /-- Step forward. -/
  | next
  /-- Step backward. -/
  | previous
  /-- Apply a change for a view. -/
  | change (viewClosed : Bool) (c : Change α)
  /-- Take no part in changes any more. -/
  | retire

namespace Hits

variable {α : Type} [BEq α] [Hashable α] [Findable α]

/-- The hits after a move. A step that fails leaves them as they are. -/
def after (h : Hits α) : Move α → Hits α
  | .next => h.next.toOption.elim h (·.2)
  | .previous => h.previous.toOption.elim h (·.2)
  | .change viewClosed c => (h.apply viewClosed c).2
  | .retire => h.retire

/-- The item that a move shows. -/
def shownBy (h : Hits α) : Move α → Option α
  | .next => h.next.toOption.map (·.1)
  | .previous => h.previous.toOption.map (·.1)
  | .change .. | .retire => none

/-- What a move does as a change. -/
def outcomeOf (h : Hits α) : Move α → Option Outcome
  | .change viewClosed c => some (h.apply viewClosed c).1
  | .next | .previous | .retire => none

/-- The hits after all moves of a run. -/
def run (h : Hits α) (moves : List (Move α)) : Hits α :=
  moves.foldl after h

/-- The items that a run shows, in order. -/
def shown (h : Hits α) : List (Move α) → List α
  | [] => []
  | m :: moves => (h.shownBy m).toList ++ (h.after m).shown moves

/-- The outcomes of the changes of a run, in order. -/
def outcomes (h : Hits α) : List (Move α) → List Outcome
  | [] => []
  | m :: moves => (h.outcomeOf m).toList ++ (h.after m).outcomes moves

@[simp]
theorem run_nil (h : Hits α) : h.run [] = h :=
  rfl

@[simp]
theorem run_cons (h : Hits α) (m : Move α) (moves : List (Move α)) :
    h.run (m :: moves) = (h.after m).run moves :=
  rfl

theorem run_append (h : Hits α) (moves moves' : List (Move α)) :
    h.run (moves ++ moves') = (h.run moves).run moves' :=
  List.foldl_append

theorem shown_append (h : Hits α) (moves moves' : List (Move α)) :
    h.shown (moves ++ moves') = h.shown moves ++ (h.run moves).shown moves' := by
  induction moves generalizing h with
  | nil => rfl
  | cons m moves ih => rw [List.cons_append, shown, shown, ih, List.append_assoc, run_cons]

/-- Hits that a run leads to from where a tracked search can begin. -/
inductive Reachable : Hits α → Prop
  | ofSearch (q : Query) (collection : List α) : Reachable (Hits.ofSearch q collection)
  | ofMatches {q : Query} {matched : List α} {start : Nat} {h : Hits α} :
      Hits.ofMatches q matched start = .ok h → Reachable h
  | after {h : Hits α} (m : Move α) : Reachable h → Reachable (h.after m)

theorem Reachable.run {h : Hits α} (hr : h.Reachable) (moves : List (Move α)) :
    (h.run moves).Reachable := by
  induction moves generalizing h with
  | nil => exact hr
  | cons m moves ih => exact ih (hr.after m)

/-! ### What moves leave as it is -/

omit [Findable α] in
theorem exists_cursor_moveTo (h : Hits α) (i : Nat) :
    ∃ cursor, (h.moveTo i).toOption.elim h (·.2) = { h with cursor } := by
  rw [moveTo]
  split
  · exact ⟨i, rfl⟩
  · exact ⟨h.cursor, rfl⟩

/-- Stepping forward touches the cursor only. -/
theorem exists_cursor_after_next (h : Hits α) : ∃ cursor, h.after .next = { h with cursor } := by
  rw [after, next]
  split
  · exact ⟨h.cursor, rfl⟩
  · exact h.exists_cursor_moveTo _

/-- Stepping backward touches the cursor only. -/
theorem exists_cursor_after_previous (h : Hits α) :
    ∃ cursor, h.after .previous = { h with cursor } := by
  rw [after, previous]
  split
  · exact ⟨h.cursor, rfl⟩
  · exact h.exists_cursor_moveTo _

/-- A change touches neither the query nor whether the hits are retired. -/
theorem query_retired_apply (h : Hits α) (viewClosed : Bool) (c : Change α) :
    (h.apply viewClosed c).2.query = h.query ∧ (h.apply viewClosed c).2.retired = h.retired := by
  cases c with
  | added a =>
    simp only [apply, add]
    split
    · exact ⟨rfl, rfl⟩
    · split <;> exact ⟨rfl, rfl⟩
  | removed a =>
    simp only [apply, remove]
    split
    · exact ⟨rfl, rfl⟩
    · split
      · split <;> exact ⟨rfl, rfl⟩
      · exact ⟨rfl, rfl⟩
  | other => exact ⟨rfl, rfl⟩

theorem query_after (h : Hits α) (m : Move α) : (h.after m).query = h.query := by
  cases m with
  | next => obtain ⟨cursor, hc⟩ := h.exists_cursor_after_next; rw [hc]
  | previous => obtain ⟨cursor, hc⟩ := h.exists_cursor_after_previous; rw [hc]
  | change viewClosed c => exact (h.query_retired_apply viewClosed c).1
  | retire => rfl

theorem query_run (h : Hits α) (moves : List (Move α)) : (h.run moves).query = h.query := by
  induction moves generalizing h with
  | nil => rfl
  | cons m moves ih => rw [run_cons, ih, query_after]

/-- Nothing brings retired hits back. -/
theorem retired_run {h : Hits α} (hr : h.retired = true) (moves : List (Move α)) :
    (h.run moves).retired = true := by
  induction moves generalizing h with
  | nil => exact hr
  | cons m moves ih =>
    refine ih ?_
    cases m with
    | next => obtain ⟨cursor, hc⟩ := h.exists_cursor_after_next; rw [hc, hr]
    | previous => obtain ⟨cursor, hc⟩ := h.exists_cursor_after_previous; rw [hc, hr]
    | change viewClosed c => exact (h.query_retired_apply viewClosed c).2.trans hr
    | retire => rfl

omit [Findable α] in
theorem retire_of_retired {h : Hits α} (hr : h.retired = true) : h.retire = h := by
  obtain ⟨query, items, members, cursor, retired⟩ := h
  subst hr
  rfl

/-! ### Hits that differ in their cursor -/

/-- The hits are the same, whichever of them was shown last. -/
def Alike (h h' : Hits α) : Prop :=
  ∃ cursor, h' = { h with cursor }

omit [Findable α] in
theorem Alike.rfl {h : Hits α} : h.Alike h :=
  ⟨h.cursor, Eq.refl _⟩

omit [Findable α] in
theorem Alike.trans {h₁ h₂ h₃ : Hits α} (h : h₁.Alike h₂) (h' : h₂.Alike h₃) : h₁.Alike h₃ := by
  obtain ⟨_, rfl⟩ := h
  obtain ⟨cursor, rfl⟩ := h'
  exact ⟨cursor, Eq.refl _⟩

/-- Who only steps through hits moves their cursor only. -/
theorem alike_run_of_steps (h : Hits α) {moves : List (Move α)}
    (hsteps : ∀ m ∈ moves, m = .next ∨ m = .previous) : h.Alike (h.run moves) := by
  induction moves generalizing h with
  | nil => exact .rfl
  | cons m moves ih =>
    obtain ⟨hm, hmoves⟩ := List.forall_mem_cons.1 hsteps
    refine Alike.trans ?_ (ih (h.after m) hmoves)
    rcases hm with rfl | rfl
    · exact h.exists_cursor_after_next
    · exact h.exists_cursor_after_previous

/-- What a change does to the hits themselves does not depend on the cursor. -/
theorem Alike.apply {h h' : Hits α} (halike : h.Alike h') (viewClosed : Bool) (c : Change α) :
    (h.apply viewClosed c).2.Alike (h'.apply viewClosed c).2 := by
  obtain ⟨cursor, rfl⟩ := halike
  cases c with
  | added a =>
    simp only [Hits.apply, add]
    split
    · exact ⟨cursor, Eq.refl _⟩
    · split <;> exact ⟨cursor, Eq.refl _⟩
  | removed a =>
    simp only [Hits.apply, remove]
    split
    · exact ⟨cursor, Eq.refl _⟩
    · split
      · split <;> exact ⟨_, Eq.refl _⟩
      · exact ⟨cursor, Eq.refl _⟩
  | other => exact ⟨cursor, Eq.refl _⟩

/-- Hits that do not follow anything, after changes for an open view one after the other. -/
def applyAll (h : Hits α) (changes : List (Change α)) : Hits α :=
  changes.foldl (fun h c ↦ (h.apply false c).2) h

theorem applyAll_concat (h : Hits α) (changes : List (Change α)) (c : Change α) :
    h.applyAll (changes ++ [c]) = ((h.applyAll changes).apply false c).2 :=
  List.foldl_concat ..

/-- For an open view, hits that are not retired take every change. -/
theorem apply_ne_dropped {h : Hits α} (hr : h.retired = false) (c : Change α) :
    (h.apply false c).1 ≠ .dropped := by
  intro hdropped
  cases c with
  | added a =>
    rw [apply, hr, Bool.or_false, if_neg Bool.false_ne_true, add] at hdropped
    split at hdropped <;> cases hdropped
  | removed a =>
    rw [apply, hr, Bool.or_false, if_neg Bool.false_ne_true, remove] at hdropped
    split at hdropped
    · split at hdropped <;> cases hdropped
    · cases hdropped
  | other => cases hdropped

/-- Retired hits, and a closed view, drop items that come or go, and nothing else. -/
theorem apply_eq_dropped_iff (h : Hits α) (viewClosed : Bool) (c : Change α) :
    (h.apply viewClosed c).1 = .dropped ↔ (h.retired || viewClosed) = true ∧ c ≠ .other := by
  cases htorn : h.retired || viewClosed with
  | true =>
    cases c with
    | added | removed => simp [apply, htorn]
    | other => simp [apply]
  | false =>
    obtain ⟨hr, rfl⟩ := Bool.or_eq_false_iff.1 htorn
    exact iff_of_false (apply_ne_dropped hr c) fun h ↦ Bool.false_ne_true h.1

/-! ### Soundness -/

variable [EquivBEq α] [LawfulHashable α]

theorem Sound.after {h : Hits α} (hs : h.Sound) (m : Move α) : (h.after m).Sound := by
  cases m with
  | next =>
    rcases hs.next_cases with ⟨-, herr⟩ | ⟨i, hi, -, hok⟩
    · rw [Hits.after, herr]; exact hs
    · rw [Hits.after, hok]; exact hs.withCursor hi
  | previous =>
    rcases hs.previous_cases with ⟨-, herr⟩ | ⟨i, hi, -, hok⟩
    · rw [Hits.after, herr]; exact hs
    · rw [Hits.after, hok]; exact hs.withCursor hi
  | change viewClosed c => exact hs.apply viewClosed c
  | retire => exact hs.retire

theorem Sound.run {h : Hits α} (hs : h.Sound) (moves : List (Move α)) : (h.run moves).Sound := by
  induction moves generalizing h with
  | nil => exact hs
  | cons m moves ih => exact ih (hs.after m)

theorem Reachable.sound {h : Hits α} (hr : h.Reachable) : h.Sound := by
  induction hr with
  | ofSearch q collection => exact sound_ofSearch q collection
  | ofMatches hok => exact sound_ofMatches hok
  | after m _ ih => exact ih.after m

end Hits

end LiveFind
