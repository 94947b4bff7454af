import LiveFind.Proofs.Hits.Backward

/-!
# Stepping round the ring

Runs of steps with no change between them. The cursor of `n` hits is a residue modulo `n`: a step
forward adds one, a step backward takes one away, and in which order they come does not matter. Only
before the first step is the cursor nowhere in the ring, and then the direction of this step decides
where the ring is taken to start (`Hits.origin`).

* `Sound.step_cases` says what one step does, in either direction, and `Sound.run_steps` is the
  induction over the steps.
* A whole round shows the items in the order in which they come up, which for the two directions are
  `Hits.upcoming` and `Hits.preceding`. That each step takes the first of these and puts it last is
  all that counts (`shown_replicate`).
-/

namespace LiveFind

variable {α : Type}

/-- Whether a move steps backward. -/
def Move.isPrevious : Move α → Bool
  | .previous => true
  | .next | .change .. | .retire => false

/-- Whether a move steps in either direction. -/
def Move.isStep (m : Move α) : Bool :=
  m.isNext || m.isPrevious

theorem Move.isStep_iff {m : Move α} : m.isStep = true ↔ m = .next ∨ m = .previous := by
  cases m <;> simp [isStep, isNext, isPrevious]

/-- How many places forward a run of steps goes, less the places that it goes backward. -/
def Move.turn (steps : List (Move α)) : Int :=
  steps.countP isNext - steps.countP isPrevious

theorem Move.turn_cons (m : Move α) (steps : List (Move α)) :
    turn (m :: steps) = turn [m] + turn steps := by
  simp only [turn, List.countP_cons, List.countP_nil]
  omega

namespace Hits

variable [BEq α] [Hashable α] {h : Hits α}

/-- Where the cursor is taken to be before a run of steps. If nothing has been shown, a step forward
comes from the last item and a step backward from the first. -/
def origin (h : Hits α) : List (Move α) → Int
  | .previous :: _ => if h.cursor < 0 then 0 else h.cursor
  | _ => if h.cursor < 0 then h.items.length - 1 else h.cursor

/-- Where a run of steps leads. -/
def place (h : Hits α) (steps : List (Move α)) : Int :=
  (h.origin steps + Move.turn steps) % h.items.length

theorem origin_of_nonneg (hc : 0 ≤ h.cursor) (steps : List (Move α)) :
    h.origin steps = h.cursor := by
  rw [origin.eq_def]
  split <;> exact if_neg (Int.not_lt.2 hc)

theorem origin_next (steps : List (Move α)) :
    h.origin (.next :: steps) = if h.cursor < 0 then (h.items.length : Int) - 1 else h.cursor :=
  rfl

theorem origin_previous (steps : List (Move α)) :
    h.origin (.previous :: steps) = if h.cursor < 0 then 0 else h.cursor :=
  rfl

theorem origin_cons (m : Move α) (steps : List (Move α)) :
    h.origin (m :: steps) = h.origin [m] := by
  cases m <;> rfl

/-- The items in the order in which a step that is taken time after time shows them. -/
def comingUp (h : Hits α) : Move α → List α
  | .next => h.upcoming
  | .previous => h.preceding
  | .change .. | .retire => []

theorem comingUp_perm (h : Hits α) {m : Move α} (hm : m.isStep = true) :
    (h.comingUp m).Perm h.items := by
  rcases Move.isStep_iff.1 hm with rfl | rfl
  · exact h.upcoming_perm
  · exact h.preceding_perm

variable [Findable α]

/-- One step fails for lack of hits, or shows the item at the next place in its direction and leaves
all but the cursor. -/
theorem Sound.step_cases (hs : h.Sound) {m : Move α} (hm : m.isStep = true) :
    (h.items = [] ∧ h.shownBy m = none ∧ h.after m = h) ∨
      ∃ (i : Nat) (hi : i < h.items.length),
        (i : Int) = h.place [m] ∧ h.after m = { h with cursor := i } ∧
          h.shownBy m = some h.items[i] := by
  have hle := hs.neg_one_le_cursor
  have hlt := hs.cursor_lt
  -- the index differs from the sum by a whole round at most
  have hplace : ∀ (i : Nat) (k : Int), i < h.items.length →
      h.origin [m] + Move.turn [m] = i + h.items.length * k → (i : Int) = h.place [m] := by
    intro i k hi heq
    rw [place, heq, Int.add_mul_emod_self_left, Int.emod_eq_of_lt (by omega) (by omega)]
  rcases Move.isStep_iff.1 hm with rfl | rfl
  · have hturn : Move.turn [Move.next (α := α)] = 1 := rfl
    rcases hs.next_cases with ⟨hnil, herr⟩ | ⟨i, hi, hindex, hok⟩
    · exact .inl ⟨hnil, by rw [shownBy, herr]; rfl, by rw [Hits.after, herr]; rfl⟩
    · refine .inr ⟨i, hi, ?_, by rw [Hits.after, hok]; rfl, by rw [shownBy, hok]; rfl⟩
      by_cases hwithin : 0 ≤ h.cursor ∧ h.cursor + 1 < h.items.length
      · rw [if_pos hwithin.2] at hindex
        refine hplace i 0 hi ?_
        rw [hturn, origin_of_nonneg hwithin.1]
        omega
      · refine hplace i 1 hi ?_
        rw [hturn, origin_next]
        split at hindex <;> split <;> omega
  · have hturn : Move.turn [Move.previous (α := α)] = -1 := rfl
    rcases hs.previous_cases with ⟨hnil, herr⟩ | ⟨i, hi, hindex, hok⟩
    · exact .inl ⟨hnil, by rw [shownBy, herr]; rfl, by rw [Hits.after, herr]; rfl⟩
    · refine .inr ⟨i, hi, ?_, by rw [Hits.after, hok]; rfl, by rw [shownBy, hok]; rfl⟩
      by_cases hpos : 0 < h.cursor
      · rw [if_pos hpos] at hindex
        refine hplace i 0 hi ?_
        rw [hturn, origin_of_nonneg (Int.le_of_lt hpos)]
        omega
      · rw [if_neg hpos] at hindex
        refine hplace i (-1) hi ?_
        rw [hturn, origin_previous]
        split <;> omega

omit [Findable α] in
/-- Where the next step leads, the others go on from. -/
theorem place_cons {m : Move α} {i : Nat} (hi : (i : Int) = h.place [m]) (steps : List (Move α)) :
    place { h with cursor := i } steps = h.place (m :: steps) := by
  have hnonneg : (0 : Int) ≤ ({ h with cursor := i } : Hits α).cursor := Int.natCast_nonneg i
  rw [place, origin_of_nonneg hnonneg, place, origin_cons, Move.turn_cons, ← Int.add_assoc,
    ← Int.emod_add_emod (h.origin [m] + Move.turn [m])]
  exact congrArg (fun j ↦ (j + Move.turn steps) % h.items.length) hi

omit [Findable α] in
/-- As many steps forward as backward lead back to where they started. -/
theorem Sound.place_of_turn_eq_zero (hs : h.Sound) (hstarted : 0 ≤ h.cursor)
    {steps : List (Move α)} (hturn : Move.turn steps = 0) : h.place steps = h.cursor := by
  rw [place, origin_of_nonneg hstarted, hturn, Int.add_zero]
  exact Int.emod_eq_of_lt hstarted hs.cursor_lt

/-- A run of steps moves the cursor by its turn, modulo the number of items, and leaves all else. -/
theorem Sound.run_steps (hs : h.Sound) (hne : h.items ≠ []) {steps : List (Move α)}
    (hsteps : ∀ m ∈ steps, m.isStep = true) (hstarted : 0 ≤ h.cursor ∨ steps ≠ []) :
    h.run steps = { h with cursor := h.place steps } := by
  induction steps generalizing h with
  | nil => rw [run_nil, hs.place_of_turn_eq_zero (hstarted.resolve_right (absurd rfl)) rfl]
  | cons m steps ih =>
    obtain ⟨hm, hsteps⟩ := List.forall_mem_cons.1 hsteps
    obtain ⟨i, hi, hplace, hafter, -⟩ := (hs.step_cases hm).resolve_left fun hnil ↦ hne hnil.1
    rw [run_cons, hafter, ih (hs.withCursor hi) hne hsteps (.inl (Int.natCast_nonneg i)),
      place_cons hplace]

theorem Sound.run_of_turn_eq_zero (hs : h.Sound) (hstarted : 0 ≤ h.cursor) {steps : List (Move α)}
    (hsteps : ∀ m ∈ steps, m.isStep = true) (hturn : Move.turn steps = 0) : h.run steps = h := by
  have hlt := hs.cursor_lt
  have hne : h.items ≠ [] := List.ne_nil_of_length_pos (by omega)
  rw [hs.run_steps hne hsteps (.inl hstarted), hs.place_of_turn_eq_zero hstarted hturn]

/-- Each of the steps shows the item at the place to which it leads. -/
theorem Sound.shown_steps (hs : h.Sound) (hne : h.items ≠ []) {steps : List (Move α)}
    (hsteps : ∀ m ∈ steps, m.isStep = true) :
    (h.shown steps).length = steps.length ∧
      ∀ k < steps.length,
        (h.shown steps)[k]? = h.items[(h.place (steps.take (k + 1))).toNat]? := by
  induction steps generalizing h with
  | nil => exact ⟨rfl, fun k hk ↦ absurd hk (Nat.not_lt_zero k)⟩
  | cons m steps ih =>
    obtain ⟨hm, hsteps⟩ := List.forall_mem_cons.1 hsteps
    obtain ⟨i, hi, hplace, hafter, hshown⟩ :=
      (hs.step_cases hm).resolve_left fun hnil ↦ hne hnil.1
    obtain ⟨hlength, hrest⟩ := ih (hs.withCursor hi) hne hsteps
    have hcons : h.shown (m :: steps) = h.items[i] :: shown { h with cursor := i } steps := by
      rw [shown, hshown, hafter]
      rfl
    rw [hcons]
    refine ⟨by rw [List.length_cons, hlength, List.length_cons], fun k hk ↦ ?_⟩
    cases k with
    | zero =>
      rw [List.getElem?_cons_zero, List.take_succ_cons, List.take_zero, ← hplace, Int.toNat_natCast,
        List.getElem?_eq_getElem hi]
    | succ k =>
      rw [List.getElem?_cons_succ, hrest k (Nat.lt_of_succ_lt_succ hk), place_cons hplace,
        List.take_succ_cons]

/-- Without hits a step fails and changes nothing. -/
theorem run_steps_of_items_nil (hnil : h.items = []) {steps : List (Move α)}
    (hsteps : ∀ m ∈ steps, m.isStep = true) :
    h.next = .error .noHits ∧ h.previous = .error .noHits ∧ h.run steps = h := by
  have hnext : h.next = .error .noHits := by rw [next, hnil]; rfl
  have hprevious : h.previous = .error .noHits := by rw [previous, hnil]; rfl
  refine ⟨hnext, hprevious, ?_⟩
  induction steps with
  | nil => rfl
  | cons m steps ih =>
    obtain ⟨hm, hsteps⟩ := List.forall_mem_cons.1 hsteps
    have hafter : h.after m = h := by
      rcases Move.isStep_iff.1 hm with rfl | rfl
      · rw [after, hnext]
        rfl
      · rw [after, hprevious]
        rfl
    rw [run_cons, hafter, ih hsteps]

/-! ### Whole rounds -/

/-- A step shows the item that comes up first and puts it last. -/
theorem Sound.comingUp_after (hs : h.Sound) {m : Move α} {a : α} {rest : List α}
    (hup : h.comingUp m = a :: rest) :
    h.shownBy m = some a ∧ (h.after m).comingUp m = rest ++ [a] := by
  cases m with
  | next =>
    rcases hs.upcoming_next with ⟨hnil, -⟩ | ⟨b, rest', h', hok, hfirst, hlast⟩
    · have hnone : h.upcoming = [] := by rw [upcoming, hnil, List.drop_nil, List.take_nil]; rfl
      cases hnone.symm.trans hup
    · cases hfirst.symm.trans hup
      rw [shownBy, Hits.after, hok]
      exact ⟨rfl, hlast⟩
  | previous =>
    rcases hs.preceding_previous with ⟨hnil, -⟩ | ⟨b, rest', h', hok, hfirst, hlast⟩
    · have hnone : h.preceding = [] := (hnil ▸ h.preceding_perm).eq_nil
      cases hnone.symm.trans hup
    · cases hfirst.symm.trans hup
      rw [shownBy, Hits.after, hok]
      exact ⟨rfl, hlast⟩
  | change | retire => cases hup

variable [EquivBEq α] [LawfulHashable α]

/-- Steps in one direction show the items that come up, one after the other, and leave them at the
end in the same order. -/
theorem Sound.shown_replicate (hs : h.Sound) {m : Move α} {l r : List α}
    (hup : h.comingUp m = l ++ r) :
    h.shown (List.replicate l.length m) = l ∧
      (h.run (List.replicate l.length m)).comingUp m = r ++ l := by
  induction l generalizing h r with
  | nil => exact ⟨rfl, by rw [List.append_nil]; exact hup⟩
  | cons a l ih =>
    obtain ⟨hshown, hlast⟩ := hs.comingUp_after hup
    obtain ⟨hrest, hend⟩ := ih (r := r ++ [a]) (hs.after m)
      (by rw [hlast, ← List.append_assoc]; rfl)
    refine ⟨?_, ?_⟩
    · rw [List.length_cons, List.replicate_succ, shown, hshown, hrest]
      rfl
    · rw [List.length_cons, List.replicate_succ, run_cons, hend, List.append_assoc]
      rfl

/-- As many steps in one direction as there are items show each of them once, and one more step
shows the first of these again. -/
theorem Sound.shown_round (hs : h.Sound) {m : Move α} (hm : m.isStep = true) :
    h.shown (List.replicate h.items.length m) = h.comingUp m ∧
      ∀ a ∈ (h.comingUp m).head?,
        h.shown (List.replicate (h.items.length + 1) m) = h.comingUp m ++ [a] := by
  obtain ⟨hround, hagain⟩ := hs.shown_replicate (List.append_nil (h.comingUp m)).symm
  rw [(h.comingUp_perm hm).length_eq] at hround hagain
  refine ⟨hround, fun a ha ↦ ?_⟩
  obtain ⟨rest, hrest⟩ := List.head?_eq_some_iff.1 ha
  have hshown := ((hs.run _).comingUp_after (hagain.trans hrest)).1
  rw [List.replicate_succ', shown_append, hround, shown, hshown]
  rfl

/-! ### Every run of steps -/

/-- Steps go round the ring of the hits: in whatever order they come, what counts is how many there
are in each direction. Every step shows the item to which it leads and touches the cursor only. A
step in one direction is undone by one in the other, and a whole round in one direction shows each
hit once before it starts again. Without hits there is nothing to step to. -/
theorem Reachable.stepped_round (hr : h.Reachable) {steps : List (Move α)}
    (hsteps : ∀ m ∈ steps, m.isStep = true) :
    (h.items ≠ [] → 0 ≤ h.cursor ∨ steps ≠ [] →
      h.run steps = { h with cursor := h.place steps } ∧ (h.shown steps).length = steps.length ∧
        ∀ k < steps.length,
          (h.shown steps)[k]? = h.items[(h.place (steps.take (k + 1))).toNat]?) ∧
    (0 ≤ h.cursor → h.run [.next, .previous] = h ∧ h.run [.previous, .next] = h) ∧
    (∀ m : Move α, m.isStep = true →
      let round := h.shown (List.replicate h.items.length m)
      Distinct round ∧ round.Perm h.items ∧
        ∀ a ∈ round.head?, h.shown (List.replicate (h.items.length + 1) m) = round ++ [a]) ∧
    (h.items = [] →
      h.next = .error .noHits ∧ h.previous = .error .noHits ∧ h.run steps = h) := by
  have hs := hr.sound
  refine ⟨fun hne hstarted ↦ ⟨hs.run_steps hne hsteps hstarted, hs.shown_steps hne hsteps⟩,
    fun hstarted ↦ ⟨?_, ?_⟩, fun m hm ↦ ?_, fun hnil ↦ run_steps_of_items_nil hnil hsteps⟩
  · exact hs.run_of_turn_eq_zero hstarted (by simp [Move.isStep_iff]) rfl
  · exact hs.run_of_turn_eq_zero hstarted (by simp [Move.isStep_iff]) rfl
  · obtain ⟨hround, hagain⟩ := hs.shown_round hm
    have hperm := h.comingUp_perm hm
    rw [hround]
    exact ⟨(hperm.pairwise_iff fun hab ↦ by rwa [BEq.comm]).2 hs.distinct, hperm, hagain⟩

/-- Three nodes are searched and none is shown yet, so a step backward leads to the last one. With
the three steps forward after it that makes two places forward from the first node. Where nothing is
found, no step does anything. -/
theorem stepped_round_nodes :
    let row : Node := { id := "node:1", kind := "filter", label := "Row" }
    let column : Node := { id := "node:2", kind := "filter", label := "Column" }
    let domain : Node := { id := "node:3", kind := "filter", label := "Domain" }
    let h := ofSearch (Query.ofText .default "Filter") [row, column, domain]
    let unmatched := ofSearch (Query.ofText .default "Color") [row, column, domain]
    let steps : List (Move Node) := [.previous, .next, .next, .next]
    h.Reachable ∧ unmatched.Reachable ∧ (∀ m ∈ steps, m.isStep = true) ∧ h.items ≠ [] ∧
      unmatched.items = [] ∧ h.run steps = { h with cursor := 2 } ∧ (h.shown steps).length = 4 ∧
      (h.shown [.next, .next, .next]).Perm h.items ∧
      (h.run steps).run [.next, .previous] = h.run steps ∧ unmatched.run steps = unmatched := by
  intro row column domain h unmatched steps
  have hr : h.Reachable := .ofSearch _ _
  have hunmatched : unmatched.Reachable := .ofSearch _ _
  have hsteps : ∀ m ∈ steps, m.isStep = true := by simp [steps, Move.isStep_iff]
  have heq : h = ofItems (Query.ofText .default "Filter") [row, column, domain] (-1) :=
    ofSearch_eq_ofItems (by decide +kernel) (by rw [Distinct]; decide +kernel)
  have hlen : h.items.length = 3 := by rw [heq]; rfl
  have hne : h.items ≠ [] := List.ne_nil_of_length_pos (by omega)
  have hnil : unmatched.items = [] := (items_ofSearch _ _).trans (by decide +kernel)
  obtain ⟨hrun, -, hround, -⟩ := hr.stepped_round hsteps
  obtain ⟨hplace, hlength, -⟩ := hrun hne (.inr (by simp [steps]))
  have htwo : h.run steps = { h with cursor := 2 } := by
    rw [hplace, place, hlen, heq]
    rfl
  have hundone := (((hr.run steps).stepped_round hsteps).2.1 (by rw [htwo]; decide)).1
  have hperm := (hround .next rfl).2.1
  rw [hlen] at hperm
  exact ⟨hr, hunmatched, hsteps, hne, hnil, htwo, hlength, hperm, hundone,
    ((hunmatched.stepped_round hsteps).2.2.2 hnil).2.2⟩

end Hits

end LiveFind
