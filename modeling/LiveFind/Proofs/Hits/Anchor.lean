import LiveFind.Proofs.Hits.Ring
import LiveFind.Proofs.Hits.Tracking

/-!
# The anchor of the cursor

While no step is taken, changes leave the cursor on the item it is on, or, when that one goes, on
the last one before it that stays. `Hits.behind` are the items up to the cursor. All that a change
does to them is to delete what it takes out (`Sound.behind_after`): what comes is put after the
cursor, also if it was there before.

So a burst of changes keeps of these items those that none of the changes takes out, in their order,
and the cursor stays behind the last of them (`Reachable.anchored`). It does not matter in which
order items go.
-/

namespace LiveFind

variable {α : Type}

/-- Whether a move is a change. -/
def Move.isChange : Move α → Bool
  | .change .. => true
  | .next | .previous | .retire => false

/-- Whether a move removes an item. -/
def Move.isRemoval : Move α → Bool
  | .change _ (.removed _) => true
  | _ => false

theorem Move.isChange_of_isRemoval {m : Move α} (h : m.isRemoval = true) : m.isChange = true := by
  cases m with
  | change => rfl
  | _ => cases h

variable [BEq α]

/-- Whether a move is the removal of an item that equals this one, for an open view. -/
def Move.takesOut (a : α) : Move α → Bool
  | .change false (.removed b) => a == b
  | _ => false

namespace Hits

variable [Hashable α] {h : Hits α}

/-- The items up to the cursor. -/
def behind (h : Hits α) : List α :=
  h.items.take (h.cursor + 1).toNat

/-- Whether a run of changes leaves an item: the hits are retired, or no removal for an open view is
one of it. -/
def spares (h : Hits α) (moves : List (Move α)) (a : α) : Bool :=
  h.retired || !moves.any (·.takesOut a)

theorem spares_nil (h : Hits α) (a : α) : h.spares [] a = true := by
  rw [spares, List.any_nil, Bool.not_false, Bool.or_true]

theorem spares_cons (h : Hits α) (m : Move α) (moves : List (Move α)) (a : α) :
    h.spares (m :: moves) a = (h.spares [m] a && h.spares moves a) := by
  rw [spares, spares, spares, List.any_cons, List.any_cons, List.any_nil, Bool.or_false,
    Bool.not_or, Bool.or_and_distrib_left]

theorem spares_of_dropped {viewClosed : Bool} (hd : (h.retired || viewClosed) = true)
    (c : Change α) (a : α) : h.spares [.change viewClosed c] a = true := by
  rw [spares, List.any_cons, List.any_nil, Bool.or_false]
  rcases Bool.or_eq_true_iff.1 hd with hr | rfl
  · rw [hr, Bool.true_or]
  · exact Bool.or_true _

theorem spares_removed (hr : h.retired = false) (a b : α) :
    h.spares [.change false (.removed a)] b = !(b == a) := by
  rw [spares, hr, List.any_cons, List.any_nil, Bool.or_false, Bool.false_or]
  rfl

theorem Sound.length_behind (hs : h.Sound) : (h.behind.length : Int) = h.cursor + 1 := by
  have hle := hs.neg_one_le_cursor
  have hlt := hs.cursor_lt
  rw [behind, List.length_take]
  omega

theorem Sound.current?_eq (hs : h.Sound) : h.current? = h.behind.getLast? :=
  current?_eq_getLast? (List.take_append_drop _ _).symm hs.length_behind.symm

section

variable [Findable α]

theorem cursor_apply_added (h : Hits α) (viewClosed : Bool) (a : α) :
    (h.apply viewClosed (.added a)).2.cursor = h.cursor := by
  simp only [Hits.apply, add]
  split
  · rfl
  · split <;> rfl

end

variable [EquivBEq α] [LawfulHashable α] [Findable α]

/-- A removal takes out what equals its item, if it is for an open view and the hits are not
retired. -/
theorem Sound.items_after_removal (hs : h.Sound) {m : Move α} (hm : m.isRemoval = true) :
    (h.after m).items = h.items.filter (h.spares [m]) := by
  cases m with
  | change viewClosed c =>
    cases c with
    | removed a =>
      by_cases hd : (h.retired || viewClosed) = true
      · rw [Hits.after, apply_of_dropped hd, List.filter_eq_self.2]
        exact fun b _ ↦ spares_of_dropped hd _ b
      · rw [Bool.not_eq_true, Bool.or_eq_false_iff] at hd
        obtain ⟨hr, rfl⟩ := hd
        rw [Hits.after, hs.items_apply_removed hr]
        exact List.filter_congr fun b _ ↦ (spares_removed hr a b).symm
    | added | other => cases hm
  | next | previous | retire => cases hm

/-- A removal moves the cursor back by the number of items that it takes out up to it. -/
theorem Sound.behind_apply_removed (hs : h.Sound) (hr : h.retired = false) (a : α) :
    (h.apply false (.removed a)).2.behind = h.behind.filter fun b ↦ !(b == a) := by
  have hle := hs.neg_one_le_cursor
  have hlt := hs.cursor_lt
  have hitems := hs.items_apply_removed hr a
  -- the kept items begin what remains, so only their number matters
  have hkept : (h.behind.filter fun b ↦ !(b == a)) <+: (h.apply false (.removed a)).2.items := by
    rw [hitems]
    exact (List.take_prefix _ _).filter _
  rw [List.prefix_iff_eq_take.1 hkept, behind]
  congr 1
  by_cases ha : h.members.contains a = true
  · obtain ⟨i, hi, heq, -, hremove⟩ := hs.remove_of_contains ha
    have hlength := hs.distinct.length_filter_take hi heq (k := (h.cursor + 1).toNat) (by omega)
    have hcursor : (h.apply false (.removed a)).2.cursor =
        if (i : Int) ≤ h.cursor then h.cursor - 1 else h.cursor := by
      rw [Hits.apply, hr, Bool.or_false, if_neg Bool.false_ne_true, hremove]
    rw [behind, hcursor, hlength]
    split <;> split <;> omega
  · have hsame : (h.apply false (.removed a)).2 = h := by
      rw [Hits.apply, hr, Bool.or_false, if_neg Bool.false_ne_true,
        remove_of_not_contains (by simpa using ha)]
    rw [hsame] at hitems ⊢
    have hnone := List.filter_eq_self.1 hitems.symm
    have hall : (h.behind.filter fun b ↦ !(b == a)) = h.behind :=
      List.filter_eq_self.2 fun b hb ↦ hnone b (List.mem_of_mem_take hb)
    have hlength := hs.length_behind
    rw [hall]
    omega

/-- A change takes what it takes out from the items up to the cursor, and puts nothing there. -/
theorem Sound.behind_after (hs : h.Sound) {m : Move α} (hm : m.isChange = true) :
    (h.after m).behind = h.behind.filter (h.spares [m]) := by
  cases m with
  | change viewClosed c =>
    by_cases hd : (h.retired || viewClosed) = true
    · rw [Hits.after, apply_of_dropped hd, List.filter_eq_self.2]
      exact fun b _ ↦ spares_of_dropped hd c b
    · rw [Bool.not_eq_true, Bool.or_eq_false_iff] at hd
      obtain ⟨hr, rfl⟩ := hd
      have hlt := hs.cursor_lt
      have hall : (∀ b, Move.takesOut b (.change false c) = false) →
          h.behind.filter (h.spares [.change false c]) = h.behind := by
        refine fun hnone ↦ List.filter_eq_self.2 fun b _ ↦ ?_
        rw [spares, List.any_cons, hnone, List.any_nil, Bool.or_false, Bool.not_false, Bool.or_true]
      cases c with
      | removed a =>
        rw [Hits.after, hs.behind_apply_removed hr]
        exact List.filter_congr fun b _ ↦ (spares_removed hr a b).symm
      | added a =>
        rw [hall fun _ ↦ rfl, Hits.after, behind, cursor_apply_added, hs.items_apply_added hr,
          List.take_append_of_le_length (by omega)]
        rfl
      | other => exact (hall fun _ ↦ rfl).symm
  | next | previous | retire => cases hm

omit [EquivBEq α] [LawfulHashable α] in
/-- A change does not retire the hits, so what a run leaves is not for it to say. -/
theorem spares_after {m : Move α} (hm : m.isChange = true) (moves : List (Move α)) (a : α) :
    (h.after m).spares moves a = h.spares moves a := by
  cases m with
  | change viewClosed c => rw [spares, spares, after, (h.query_retired_apply viewClosed c).2]
  | next | previous | retire => cases hm

/-- Of the items up to the cursor, a run of changes leaves those that none of them takes out. -/
theorem Sound.behind_run (hs : h.Sound) {moves : List (Move α)}
    (hmoves : ∀ m ∈ moves, m.isChange = true) :
    (h.run moves).behind = h.behind.filter (h.spares moves) := by
  induction moves generalizing h with
  | nil => exact (List.filter_eq_self.2 fun a _ ↦ spares_nil h a).symm
  | cons m moves ih =>
    have hm := hmoves m List.mem_cons_self
    rw [run_cons, ih (hs.after m) fun m hm ↦ hmoves m (List.mem_cons_of_mem _ hm),
      hs.behind_after hm, List.filter_filter]
    refine List.filter_congr fun a _ ↦ ?_
    rw [h.spares_cons m moves, spares_after hm, Bool.and_comm]

/-- A run of removals leaves the items that none of them takes out. -/
theorem Sound.items_run_removals (hs : h.Sound) {moves : List (Move α)}
    (hmoves : ∀ m ∈ moves, m.isRemoval = true) :
    (h.run moves).items = h.items.filter (h.spares moves) := by
  induction moves generalizing h with
  | nil => exact (List.filter_eq_self.2 fun a _ ↦ spares_nil h a).symm
  | cons m moves ih =>
    have hm := hmoves m List.mem_cons_self
    rw [run_cons, ih (hs.after m) fun m hm ↦ hmoves m (List.mem_cons_of_mem _ hm),
      hs.items_after_removal hm, List.filter_filter]
    refine List.filter_congr fun a _ ↦ ?_
    rw [h.spares_cons m moves, spares_after (Move.isChange_of_isRemoval hm), Bool.and_comm]

omit [EquivBEq α] [LawfulHashable α] [Findable α] in
/-- It does not matter in which order changes come. -/
theorem spares_perm {moves moves' : List (Move α)} (hperm : moves.Perm moves') (a : α) :
    h.spares moves a = h.spares moves' a := by
  rw [spares, spares, hperm.any_eq]

omit [LawfulHashable α] [Findable α] in
theorem spares_congr (moves : List (Move α)) {a b : α} (hab : (a == b) = true) :
    h.spares moves a = h.spares moves b := by
  have hsame : (Move.takesOut a : Move α → Bool) = Move.takesOut b := by
    funext m
    rw [Move.takesOut.eq_def, Move.takesOut.eq_def]
    split
    · exact BEq.congr_left hab
    · rfl
  rw [spares, spares, hsame]

omit [LawfulHashable α] [Findable α] in
/-- What a run does not leave, it leaves in no form. -/
theorem contains_filter_spares {moves : List (Move α)} {a : α} (ha : h.spares moves a = false)
    (l : List α) : (l.filter (h.spares moves)).contains a = false := by
  rw [Bool.eq_false_iff, ne_eq, List.contains_iff_exists_mem_beq]
  rintro ⟨b, hb, hab⟩
  rw [spares_congr moves hab, (List.mem_filter.1 hb).2] at ha
  cases ha

/-! ### Every run of changes -/

/-- However many changes come one after the other, the items up to the cursor are those that were
there before and that no change takes out, in their order. The cursor is on the last of them. So
what is taken out is not among them, also if it comes again, and the current item stays the current
one until it is taken out. If only removals come, their order does not matter. -/
theorem Reachable.anchored (hr : h.Reachable) {moves : List (Move α)}
    (hmoves : ∀ m ∈ moves, m.isChange = true) :
    let kept := h.behind.filter (h.spares moves)
    (kept <+: (h.run moves).items ∧ (h.run moves).cursor = kept.length - 1 ∧
      (h.run moves).current? = kept.getLast?) ∧
    (∀ a, h.spares moves a = false → (h.run moves).behind.contains a = false) ∧
    (∀ a, h.current? = some a → h.spares moves a = true → (h.run moves).current? = some a) ∧
    ((∀ m ∈ moves, m.isRemoval = true) → ∀ moves', moves.Perm moves' →
      (h.run moves').items = (h.run moves).items ∧
        (h.run moves').cursor = (h.run moves).cursor) := by
  intro kept
  have hs := hr.sound
  have hcursor : ∀ {moves' : List (Move α)}, (∀ m ∈ moves', m.isChange = true) →
      (h.run moves').cursor = (h.behind.filter (h.spares moves')).length - 1 := by
    intro moves' hmoves'
    rw [← hs.behind_run hmoves', (hs.run moves').length_behind]
    omega
  have hbehind : (h.run moves).behind = kept := hs.behind_run hmoves
  have hcurrent : (h.run moves).current? = kept.getLast? := by
    rw [(hs.run moves).current?_eq, hbehind]
  refine ⟨⟨hbehind ▸ List.take_prefix _ _, hcursor hmoves, hcurrent⟩, fun a ha ↦ ?_,
    fun a ha hleft ↦ ?_, fun hremovals moves' hperm ↦ ?_⟩
  · rw [hbehind]
    exact contains_filter_spares ha _
  · obtain ⟨l, hl⟩ := List.getLast?_eq_some_iff.1 (hs.current?_eq ▸ ha)
    rw [hcurrent]
    simp only [kept, hl, List.filter_append, List.filter_cons, hleft, if_true, List.filter_nil,
      List.getLast?_concat]
  · have hsame : h.spares moves' = h.spares moves := funext fun a ↦ (spares_perm hperm a).symm
    have hremovals' : ∀ m ∈ moves', m.isRemoval = true :=
      fun m hm ↦ hremovals m (hperm.mem_iff.2 hm)
    rw [hs.items_run_removals hremovals', hs.items_run_removals hremovals, hcursor hmoves,
      hcursor fun m hm ↦ Move.isChange_of_isRemoval (hremovals' m hm), hsame]
    exact ⟨rfl, rfl⟩

/-- The second of four nodes is shown, removed and added again, while the first stays. Two removals
of other nodes come in either order. -/
theorem anchored_nodes :
    let row : Node := { id := "node:1", kind := "filter", label := "Row" }
    let column : Node := { id := "node:2", kind := "filter", label := "Column" }
    let domain : Node := { id := "node:3", kind := "filter", label := "Domain" }
    let range : Node := { id := "node:4", kind := "filter", label := "Range" }
    let h := (ofSearch (Query.ofText .default "Filter") [row, column, domain, range]).run
      [.next, .next]
    let moves : List (Move Node) :=
      [.change false (.removed column), .change true (.removed row), .change false (.added column)]
    let removals : List (Move Node) :=
      [.change false (.removed domain), .change false (.removed row)]
    h.Reachable ∧ (∀ m ∈ moves, m.isChange = true) ∧ (∀ m ∈ removals, m.isRemoval = true) ∧
      h.current? = some column ∧
      [row] <+: (h.run moves).items ∧ (h.run moves).cursor = 0 ∧ (h.run moves).current? = some row ∧
      (h.run moves).behind.contains column = false ∧ (h.run removals).current? = some column ∧
      (h.run removals.reverse).items = (h.run removals).items := by
  intro row column domain range h moves removals
  have hr : h.Reachable := (Reachable.ofSearch _ _).run _
  have hmoves : ∀ m ∈ moves, m.isChange = true := by simp [moves, Move.isChange]
  have hremovals : ∀ m ∈ removals, m.isRemoval = true := by simp [removals, Move.isRemoval]
  have heq : h = ofItems (Query.ofText .default "Filter") [row, column, domain, range] 1 := by
    have hd : Distinct [row, column, domain, range] := by rw [Distinct]; decide +kernel
    have hall : ofSearch (Query.ofText .default "Filter") [row, column, domain, range] =
        ofItems (Query.ofText .default "Filter") [row, column, domain, range] (-1) :=
      ofSearch_eq_ofItems (by decide +kernel) hd
    exact congrArg (·.run [.next, .next]) hall
  have hcurrent : h.current? = some column := by rw [heq]; rfl
  have hkept : h.behind.filter (h.spares moves) = [row] := by rw [heq]; rfl
  obtain ⟨⟨hpre, hcursor, hlast⟩, hout, -⟩ := hr.anchored hmoves
  obtain ⟨-, -, hstays, hperm⟩ :=
    hr.anchored fun m hm ↦ Move.isChange_of_isRemoval (hremovals m hm)
  rw [hkept] at hpre hcursor hlast
  exact ⟨hr, hmoves, hremovals, hcurrent, hpre, hcursor, hlast,
    hout column (by rw [heq]; rfl), hstays column hcurrent (by rw [heq]; rfl),
    (hperm hremovals _ (List.reverse_perm _).symm).1⟩

end Hits

end LiveFind
