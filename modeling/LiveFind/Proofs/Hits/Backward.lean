import LiveFind.Proofs.Hits.Turns

/-!
# Stepping backward while hits change

`Hits.preceding` are the items in the order in which stepping backward shows them. Stepping backward
moves the first of them to the end, and a change deletes an item or puts one in, as it is when
stepping forward (`Sound.preceding_previous`, `Sound.preceding_apply`).

The two directions differ in one case. When the item on which the cursor is gets removed, the cursor
is set back by one place, onto the item that a step backward was to show next. That item becomes the
current one without being shown: it is passed over (`Hits.passed`), and comes up again only after
all others. So what takes turns when stepping backward are the items that become current in one way
or the other (`Hits.visited`), and the items shown do so as long as neither of the two is passed
over (`Reachable.visited_in_turn`). With three hits it can already happen that one of them is shown
twice and another one not at all (`exists_not_onceBetween_previous`).
-/

namespace LiveFind

variable {α : Type}

/-- Whether an item was taken out that was the current one. -/
def Outcome.tookCurrent : Outcome → Bool
  | .removed _ wasCurrent => wasCurrent
  | .appended _ | .ignored | .dropped => false

namespace Hits

variable [BEq α] [Hashable α] {h : Hits α}

/-- The items in the order in which stepping backward shows them. -/
def preceding (h : Hits α) : List α :=
  (h.items.take h.cursor.toNat).reverse ++ (h.items.drop h.cursor.toNat).reverse

/-- The items come up in turn, starting before a place of the list. -/
theorem preceding_eq_append {l r : List α} (hitems : h.items = l ++ r)
    (hcursor : h.cursor.toNat = l.length) : h.preceding = l.reverse ++ r.reverse := by
  rw [preceding, hitems, hcursor, List.drop_left, List.take_left]

theorem preceding_perm (h : Hits α) : h.preceding.Perm h.items := by
  have hparts : (h.items.take h.cursor.toNat ++ h.items.drop h.cursor.toNat).Perm h.items := by
    rw [List.take_append_drop]
  exact ((List.reverse_perm _).append (List.reverse_perm _)).trans hparts

section Passed

variable [Findable α]

/-- The item on which a move sets the cursor back, when it takes the current one out. -/
def passedBy (h : Hits α) : Move α → Option α
  | .change viewClosed c =>
    if (h.apply viewClosed c).1.tookCurrent then (h.apply viewClosed c).2.current? else none
  | .next | .previous | .retire => none

/-- The items that become current in a run without being shown, in order. -/
def passed (h : Hits α) : List (Move α) → List α
  | [] => []
  | m :: moves => (h.passedBy m).toList ++ (h.after m).passed moves

/-- The items that become current in a run, in order: those that it shows, and those on which the
cursor is set back. -/
def visited (h : Hits α) : List (Move α) → List α
  | [] => []
  | m :: moves => (h.shownBy m).toList ++ (h.passedBy m).toList ++ (h.after m).visited moves

theorem shown_previous {a : α} {h' : Hits α} (hok : h.previous = .ok (a, h'))
    (moves : List (Move α)) : h.shown (.previous :: moves) = a :: h'.shown moves := by
  rw [shown, shownBy, after, hok]
  rfl

theorem passed_previous {a : α} {h' : Hits α} (hok : h.previous = .ok (a, h'))
    (moves : List (Move α)) : h.passed (.previous :: moves) = h'.passed moves := by
  rw [passed, after, hok]
  rfl

theorem shown_change (viewClosed : Bool) (c : Change α) (moves : List (Move α)) :
    h.shown (.change viewClosed c :: moves) = (h.apply viewClosed c).2.shown moves :=
  rfl

/-- What is visited but not shown is passed over. -/
theorem filter_visited {p : α → Bool} {moves : List (Move α)}
    (hp : ∀ a ∈ h.passed moves, p a = false) :
    (h.visited moves).filter p = (h.shown moves).filter p := by
  induction moves generalizing h with
  | nil => rfl
  | cons m moves ih =>
    have hnone : (h.passedBy m).toList.filter p = [] := by
      refine List.filter_eq_nil_iff.2 fun a ha ↦ ?_
      rw [hp a (List.mem_append_left _ ha)]
      exact Bool.false_ne_true
    have hrest := ih fun a ha ↦ hp a (List.mem_append_right _ ha)
    rw [visited, shown, List.filter_append, List.filter_append, List.filter_append, hnone, hrest,
      List.append_nil]

end Passed

/-! ### Steps -/

/-- Stepping backward fails for lack of hits, or shows the first of the preceding items and puts it
last. -/
theorem Sound.preceding_previous (hs : h.Sound) :
    (h.items = [] ∧ h.previous = .error .noHits) ∨
      ∃ a rest h', h.previous = .ok (a, h') ∧ h.preceding = a :: rest ∧
        h'.preceding = rest ++ [a] := by
  rcases hs.previous_cases with hnone | ⟨i, hi, hindex, hok⟩
  · exact .inl hnone
  · right
    obtain ⟨l, r, hitems, hlen⟩ : ∃ l r, h.items = l ++ h.items[i] :: r ∧ l.length = i :=
      ⟨h.items.take i, h.items.drop (i + 1),
        by rw [← List.drop_eq_getElem_cons hi, List.take_append_drop],
        List.length_take_of_le (Nat.le_of_lt hi)⟩
    generalize h.items[i] = b at hitems hok
    have hafter : preceding { h with cursor := i } = l.reverse ++ (b :: r).reverse :=
      preceding_eq_append hitems (by show (i : Int).toNat = l.length; omega)
    have hlength : h.items.length = l.length + (r.length + 1) := by
      rw [hitems, List.length_append, List.length_cons]
    refine ⟨b, l.reverse ++ r.reverse, _, hok, ?_, by rw [hafter]; simp⟩
    by_cases hpos : 0 < h.cursor
    · rw [if_pos hpos] at hindex
      have hcut : h.items = (l ++ [b]) ++ r := by rw [hitems, List.append_assoc]; rfl
      have hcursor : h.cursor.toNat = (l ++ [b]).length := by
        rw [List.length_append, List.length_singleton]
        omega
      rw [preceding_eq_append hcut hcursor]
      simp
    · -- the ring starts again, with the last item
      rw [if_neg hpos] at hindex
      have hnil : r = [] := List.length_eq_zero_iff.1 (by omega)
      have hcursor : h.cursor.toNat = ([] : List α).length := by
        rw [List.length_nil]
        omega
      rw [preceding_eq_append (r := h.items) rfl hcursor, hitems, hnil]
      simp

/-- An item put in at the end of the hits comes up where the ring starts again. -/
theorem Sound.preceding_append (hs : h.Sound) {a : α} {k : Hits α}
    (hitems' : k.items = h.items ++ [a]) (hcursor' : k.cursor = h.cursor) :
    k.preceding =
      (h.items.take h.cursor.toNat).reverse ++ a :: (h.items.drop h.cursor.toNat).reverse := by
  have hlen : h.cursor.toNat ≤ h.items.length := by
    have hlt := hs.cursor_lt
    omega
  have hcut : k.items = h.items.take h.cursor.toNat ++ (h.items.drop h.cursor.toNat ++ [a]) := by
    rw [hitems', ← List.append_assoc, List.take_append_drop]
  rw [preceding_eq_append hcut (hcursor' ▸ (List.length_take_of_le hlen).symm), List.reverse_concat]

variable [EquivBEq α]

theorem Sound.distinct_preceding (hs : h.Sound) : Distinct h.preceding :=
  (h.preceding_perm.pairwise_iff fun hab ↦ by rwa [BEq.comm]).2 hs.distinct

theorem contains_preceding (h : Hits α) (a : α) : h.preceding.contains a = h.items.contains a := by
  rw [← List.any_beq', ← List.any_beq', h.preceding_perm.any_eq]

/-- Taking an item out of the hits takes it out of those preceding. If it is the current one and
another stands before it, that one becomes the current one and goes to the end. -/
theorem Sound.preceding_filter (hs : h.Sound) {i : Nat} (hi : i < h.items.length) {a : α}
    (ha : (h.items[i] == a) = true) {k : Hits α}
    (hitems' : k.items = h.items.filter fun b ↦ !(b == a))
    (hcursor' : k.cursor = if (i : Int) ≤ h.cursor then h.cursor - 1 else h.cursor) :
    (((i : Int) = h.cursor → k.current? = none) ∧
        k.preceding = h.preceding.filter fun b ↦ !(b == a)) ∨
      ((i : Int) = h.cursor ∧ ∃ b rest, k.current? = some b ∧
        (h.preceding.filter fun b ↦ !(b == a)) = b :: rest ∧ k.preceding = rest ++ [b]) := by
  have hlt := hs.cursor_lt
  have hle := hs.neg_one_le_cursor
  have hlength := hs.distinct.length_filter_take hi ha (k := h.cursor.toNat) (by omega)
  -- both parts of the ring lose what equals the item
  have hcut : k.items = ((h.items.take h.cursor.toNat).filter fun b ↦ !(b == a)) ++
      (h.items.drop h.cursor.toNat).filter fun b ↦ !(b == a) := by
    rw [← List.filter_append, List.take_append_drop, hitems']
  have hkept : (h.preceding.filter fun b ↦ !(b == a)) =
      ((h.items.take h.cursor.toNat).filter fun b ↦ !(b == a)).reverse ++
        ((h.items.drop h.cursor.toNat).filter fun b ↦ !(b == a)).reverse := by
    rw [preceding, List.filter_append, List.filter_reverse, List.filter_reverse]
  rw [hkept]
  generalize (h.items.take h.cursor.toNat).filter (fun b ↦ !(b == a)) = l at hcut hlength
  generalize (h.items.drop h.cursor.toNat).filter (fun b ↦ !(b == a)) = r at hcut
  by_cases hback : (i : Int) = h.cursor ∧ 0 < h.cursor
  · -- the cursor was on the item, and is now on the last one of the first part
    right
    obtain ⟨hcurrent, hpos⟩ := hback
    rw [if_neg (by omega)] at hlength
    rw [if_pos (by omega)] at hcursor'
    have hlast := current?_eq_getLast? hcut (by omega)
    obtain rfl | ⟨l, b, rfl⟩ := l.eq_nil_or_concat
    · rw [List.length_nil] at hlength
      omega
    · rw [List.concat_eq_append] at hcut hlength hlast ⊢
      rw [List.length_append, List.length_singleton] at hlength
      have hcut' : k.items = l ++ b :: r := by rw [hcut, List.append_assoc]; rfl
      refine ⟨hcurrent, b, l.reverse ++ r.reverse, by simpa using hlast, by simp, ?_⟩
      rw [preceding_eq_append hcut' (by omega)]
      simp
  · left
    constructor
    · intro hcurrent
      have hneg : k.cursor < 0 := by
        rw [hcursor', if_pos (by omega)]
        omega
      rw [current?, if_pos hneg]
    · refine preceding_eq_append hcut ?_
      split at hlength <;> split at hcursor' <;> omega

variable [LawfulHashable α] [Findable α]

/-- What a change makes of the items in backward order, seen on those that are hits before and after
it: nothing, unless the first of them is passed over and goes to the end. -/
theorem Sound.preceding_apply (hs : h.Sound) (viewClosed : Bool) (c : Change α) {p : α → Bool}
    (hp : ∀ a, p a = true →
      h.items.contains a = true ∧ (h.apply viewClosed c).2.items.contains a = true) :
    (h.passedBy (.change viewClosed c) = none ∧
        (h.apply viewClosed c).2.preceding.filter p = h.preceding.filter p) ∨
      ∃ a b rest, h.passedBy (.change viewClosed c) = some b ∧
        (∀ x, p x = true → (x == a) = false) ∧
        (h.preceding.filter fun x ↦ !(x == a)) = b :: rest ∧
        (h.apply viewClosed c).2.preceding = rest ++ [b] := by
  have hpassed : h.passedBy (.change viewClosed c) =
      if (h.apply viewClosed c).1.tookCurrent then (h.apply viewClosed c).2.current? else none :=
    rfl
  rw [hpassed]
  rcases hs.apply_cases viewClosed c with
    ⟨a, i, hi, -, ha, herase, heq⟩ | ⟨a, -, hnew, heq⟩ | ⟨o, ho, heq⟩
  · -- what stays does not equal the item that goes
    have hother : ∀ x, p x = true → (x == a) = false := by
      intro x hx
      by_contra hxa
      rw [Bool.not_eq_false] at hxa
      have hin := (hp x hx).2
      rw [heq, herase, List.contains_congr hxa, ← List.any_beq', List.any_filter] at hin
      simp at hin
    rw [herase] at heq
    rcases hs.preceding_filter (k := (h.apply viewClosed c).2) hi ha (by rw [heq]) (by rw [heq])
      with ⟨hnone, hkept⟩ | ⟨hcurrent, b, rest, hb, hkept, hafter⟩
    · refine .inl ⟨?_, by rw [hkept, filter_filter_bne hother]⟩
      split
      · rename_i htook
        rw [heq] at htook
        exact hnone (beq_iff_eq.1 htook)
      · rfl
    · refine .inr ⟨a, b, rest, ?_, hother, hkept, hafter⟩
      rw [if_pos (by rw [heq]; exact beq_iff_eq.2 hcurrent), hb]
  · left
    have ha : p a = false := by
      by_contra ha
      rw [Bool.not_eq_false] at ha
      rw [(hp a ha).1] at hnew
      cases hnew
    have hafter := hs.preceding_append (k := (h.apply viewClosed c).2) (by rw [heq]) (by rw [heq])
    refine ⟨by rw [heq]; rfl, ?_⟩
    rw [hafter, preceding]
    simp [ha]
  · left
    rw [heq]
    refine ⟨?_, rfl⟩
    rcases ho with rfl | rfl <;> rfl

/-! ### Turns -/

omit [EquivBEq α] [LawfulHashable α] in
/-- As long as there is a hit, stepping backward shows the item that comes up first and puts it
last. -/
theorem Sound.exists_shown_previous (hs : h.Sound) {x : α} (hx : h.items.contains x = true) :
    ∃ a rest, h.preceding = a :: rest ∧ (h.after .previous).preceding = rest ++ [a] ∧
      ∀ moves, h.visited (.previous :: moves) = a :: (h.after .previous).visited moves := by
  rcases hs.preceding_previous with ⟨hnil, -⟩ | ⟨a, rest, h', hok, hpre, hpre'⟩
  · exact absurd hx (by simp [hnil])
  · have hafter : h.after .previous = h' := by rw [Hits.after, hok]; rfl
    refine ⟨a, rest, hpre, hafter ▸ hpre', fun moves ↦ ?_⟩
    rw [visited, shownBy, hok]
    rfl

/-- Two items that stay are visited in turn, beginning with the one that comes up first. -/
theorem Sound.inTurn_visited {x y : α} (hxy : (x == y) = false) {moves : List (Move α)}
    (hbackward : Move.next ∉ moves) (hs : h.Sound) (hx : h.Tracks x moves)
    (hy : h.Tracks y moves) : InTurn x y h.preceding (h.visited moves) := by
  induction moves generalizing h with
  | nil => exact inTurn_nil x y _
  | cons m moves ih =>
    have hbackward' : Move.next ∉ moves := fun hm ↦ hbackward (List.mem_cons_of_mem _ hm)
    have hrest := ih hbackward' (hs.after m) hx.tail hy.tail
    cases m with
    | next => exact absurd List.mem_cons_self hbackward
    | previous =>
      obtain ⟨a, rest, hpre, hpre', hvisited⟩ := hs.exists_shown_previous hx.head
      rw [hpre'] at hrest
      rw [hvisited, hpre]
      refine hrest.rotate (hpre ▸ hs.distinct_preceding) hxy ?_ ?_
      · rw [← hpre, contains_preceding, hx.head]
      · rw [← hpre, contains_preceding, hy.head]
    | change viewClosed c =>
      have hstay : ∀ a, isOneOf x y a = true → h.items.contains a = true ∧
          (h.apply viewClosed c).2.items.contains a = true := fun _ ↦ hx.contains_of_isOneOf hy
      rcases hs.preceding_apply viewClosed c hstay with
        ⟨hnone, hpre⟩ | ⟨a, b, rest, hb, hother, hpre, hpre'⟩
      · rw [visited, hnone]
        exact hrest.congr hpre.symm
      · -- the item passed over goes to the end like one that is shown
        have hkept : ∀ {z}, h.items.contains z = true → isOneOf x y z = true →
            (b :: rest).contains z = true := by
          intro z hz hone
          obtain ⟨z', hmem, hzz'⟩ := List.contains_iff_exists_mem_beq.1
            ((contains_preceding h z).trans hz)
          refine List.contains_iff_exists_mem_beq.2 ⟨z', hpre ▸ List.mem_filter.2 ⟨hmem, ?_⟩, hzz'⟩
          rw [← BEq.congr_left hzz', hother z hone]
          rfl
        rw [visited, hb]
        have hafter : h.after (.change viewClosed c) = (h.apply viewClosed c).2 := rfl
        rw [hafter, hpre'] at hrest
        refine (hrest.rotate ?_ hxy (hkept hx.head ?_) (hkept hy.head ?_)).congr ?_
        · rw [← hpre]
          exact hs.distinct_preceding.filter _
        · simp [isOneOf]
        · simp [isOneOf]
        · rw [← hpre, filter_filter_bne hother]
    | retire => exact hrest

/-- Only the removal of the current item can pass another one over, and not if it is the first. -/
theorem Sound.passed_eq_nil (hs : h.Sound) {moves : List (Move α)}
    (hmoves : ∀ index, .removed (index + 1) true ∉ h.outcomes moves) : h.passed moves = [] := by
  induction moves generalizing h with
  | nil => rfl
  | cons m moves ih =>
    have hrest : (h.after m).passed moves = [] :=
      ih (hs.after m) fun index hindex ↦ hmoves index (List.mem_append_right _ hindex)
    rw [passed, hrest, List.append_nil]
    cases m with
    | change viewClosed c =>
      have hfirst : ∀ index, (h.apply viewClosed c).1 ≠ .removed (index + 1) true :=
        fun index heq ↦ hmoves index
          (List.mem_append_left _ (Option.mem_toList.2 (congrArg some heq)))
      rw [passedBy]
      rcases hs.apply_cases viewClosed c with
        ⟨a, i, hi, -, -, -, heq⟩ | ⟨a, -, -, heq⟩ | ⟨o, rfl | rfl, heq⟩
      · split
        · rename_i htook
          rw [heq] at htook hfirst ⊢
          have hcurrent : (i : Int) = h.cursor := beq_iff_eq.1 htook
          have hzero : i = 0 := by
            cases i with
            | zero => rfl
            | succ i => exact absurd (congrArg _ (beq_iff_eq.2 hcurrent)) (hfirst i)
          have hneg : (if (i : Int) ≤ h.cursor then h.cursor - 1 else h.cursor) < 0 := by
            rw [if_pos (by omega)]
            omega
          rw [current?, if_pos hneg]
          rfl
        · rfl
      all_goals rw [heq]; rfl
    | next | previous | retire => rfl

/-- Of four hits, the third is removed while it is current. The second is passed over, and the last
one is shown again before it. All but the third stay. -/
theorem shown_passed_four (q : Query) {w x y z : α} (hd : Distinct [w, x, y, z]) :
    let h := ofItems q [w, x, y, z] (-1)
    let moves : List (Move α) :=
      [.previous, .previous, .change false (.removed y), .previous, .previous]
    h.shown moves = [z, y, w, z] ∧ h.passed moves = [x] ∧
      ∀ a ∈ [w, x, z], h.Tracks a moves := by
  intro h moves
  have hother : ∀ a ∈ [w, x, z], (a == y) = false := by
    simp_all [Distinct, BEq.comm (a := z)]
  have hw : (w == y) = false := hother w (by simp)
  have hx : (x == y) = false := hother x (by simp)
  have hlast : h.previous = .ok (z, ofItems q [w, x, y, z] 3) := rfl
  have hthird : (ofItems q [w, x, y, z] 3).previous = .ok (y, ofItems q [w, x, y, z] 2) := rfl
  have happly : (ofItems q [w, x, y, z] 2).apply false (.removed y) =
      (.removed 2 true, { ofItems q [w, x, z] 1 with
        members := (Std.HashSet.ofList [w, x, y, z]).erase y }) := by
    have hfind : [w, x, y, z].findIdx? (· == y) = some 2 := by simp [List.findIdx?_cons, hw, hx]
    have hin : (Std.HashSet.ofList [w, x, y, z]).contains y = true := by simp
    rw [Hits.apply, ofItems, if_neg (by simp), remove, if_pos hin]
    simp [hfind, ofItems]
  have hfirst : ∀ members, previous { ofItems q [w, x, z] 1 with members } =
      .ok (w, { ofItems q [w, x, z] 0 with members }) := fun _ ↦ rfl
  have hagain : ∀ members, previous { ofItems q [w, x, z] 0 with members } =
      .ok (z, { ofItems q [w, x, z] 2 with members }) := fun _ ↦ rfl
  refine ⟨?_, ?_, fun a ha ↦ ?_⟩
  · rw [shown_previous hlast, shown_previous hthird, shown_change, happly,
      shown_previous (hfirst _), shown_previous (hagain _), shown]
  · rw [passed_previous hlast, passed_previous hthird, passed, passedBy, happly, Hits.after, happly,
      passed_previous (hfirst _), passed_previous (hagain _)]
    rfl
  · have hs : h.Sound := sound_ofItems hd (by omega) (by omega)
    have hitems : h.items = [w, x, y, z] := rfl
    refine hs.tracks ?_ fun viewClosed b hb ↦ ?_
    · rw [hitems]
      simp only [List.mem_cons, List.not_mem_nil, or_false] at ha
      rcases ha with rfl | rfl | rfl <;> simp
    · simp only [moves, List.mem_cons, List.not_mem_nil, or_false, reduceCtorEq, false_or,
        Move.change.injEq, Change.removed.injEq] at hb
      rw [hb.2, BEq.comm, hother a ha]

/-! ### Every run -/

/-- Stepping backward, two items that stay become current in turn, whatever comes and goes.
So they are shown in turn too, unless one of them is passed over: that takes the removal of the
current item from a place that is not the first. -/
theorem Reachable.visited_in_turn (hr : h.Reachable) {moves : List (Move α)}
    (hbackward : Move.next ∉ moves) :
    (∀ x y, (x == y) = false → h.Tracks x moves → h.Tracks y moves →
      (OnceBetween x y (h.visited moves) ∧ OnceBetween y x (h.visited moves)) ∧
      ((∀ a ∈ h.passed moves, isOneOf x y a = false) →
        OnceBetween x y (h.shown moves) ∧ OnceBetween y x (h.shown moves))) ∧
    ((∀ index, .removed (index + 1) true ∉ h.outcomes moves) → h.passed moves = []) := by
  refine ⟨fun x y hxy hx hy ↦ ?_, hr.sound.passed_eq_nil⟩
  have hyx : (y == x) = false := by rwa [BEq.comm]
  have hforth := (hr.sound.inTurn_visited hxy hbackward hx hy).1
  have hback := (hr.sound.inTurn_visited hyx hbackward hy hx).1
  refine ⟨⟨onceBetween_of_isChain hforth, onceBetween_of_isChain hback⟩, fun hpassed ↦ ?_⟩
  have hpassed' : ∀ a ∈ h.passed moves, isOneOf y x a = false := fun a ha ↦ by
    rw [isOneOf, Bool.or_comm]
    exact hpassed a ha
  rw [filter_visited hpassed] at hforth
  rw [filter_visited hpassed'] at hback
  exact ⟨onceBetween_of_isChain hforth, onceBetween_of_isChain hback⟩

/-- The third of four nodes is removed while it is current. The first and the last one are shown in
turn all the same, since it is the second that is passed over. -/
theorem visited_in_turn_nodes :
    let row : Node := { id := "node:1", kind := "filter", label := "Row" }
    let column : Node := { id := "node:2", kind := "filter", label := "Column" }
    let domain : Node := { id := "node:3", kind := "filter", label := "Domain" }
    let range : Node := { id := "node:4", kind := "filter", label := "Range" }
    let h := ofSearch (Query.ofText .default "Filter") [row, column, domain, range]
    let moves : List (Move Node) :=
      [.previous, .previous, .change false (.removed domain), .previous, .previous]
    h.Reachable ∧ Move.next ∉ moves ∧ (row == range) = false ∧ h.Tracks row moves ∧
      h.Tracks range moves ∧ (∀ a ∈ h.passed moves, isOneOf row range a = false) ∧
      OnceBetween row range (h.shown moves) ∧ OnceBetween range row (h.shown moves) := by
  intro row column domain range h moves
  have hr : h.Reachable := .ofSearch _ _
  have hbackward : Move.next ∉ moves := by simp [moves]
  have hd : Distinct [row, column, domain, range] := by rw [Distinct]; decide +kernel
  have heq : h = ofItems (Query.ofText .default "Filter") [row, column, domain, range] (-1) :=
    ofSearch_eq_ofItems (by decide +kernel) hd
  obtain ⟨-, hlist, htracks⟩ := shown_passed_four (Query.ofText .default "Filter") hd
  rw [← heq] at hlist htracks
  have hpassed : ∀ a ∈ h.passed moves, isOneOf row range a = false := by
    rw [hlist]
    decide
  have hrow : h.Tracks row moves := htracks row (by simp)
  have hrange : h.Tracks range moves := htracks range (by simp)
  exact ⟨hr, hbackward, by decide, hrow, hrange, hpassed,
    ((hr.visited_in_turn hbackward).1 row range (by decide) hrow hrange).2 hpassed⟩

/-- In the same run the last node is shown twice, and the second one not once in between. -/
theorem exists_not_onceBetween_previous :
    let row : Node := { id := "node:1", kind := "filter", label := "Row" }
    let column : Node := { id := "node:2", kind := "filter", label := "Column" }
    let domain : Node := { id := "node:3", kind := "filter", label := "Domain" }
    let range : Node := { id := "node:4", kind := "filter", label := "Range" }
    let h := ofSearch (Query.ofText .default "Filter") [row, column, domain, range]
    let moves : List (Move Node) :=
      [.previous, .previous, .change false (.removed domain), .previous, .previous]
    h.Reachable ∧ Move.next ∉ moves ∧ (range == column) = false ∧ h.Tracks range moves ∧
      h.Tracks column moves ∧ ¬OnceBetween range column (h.shown moves) := by
  intro row column domain range h moves
  have hd : Distinct [row, column, domain, range] := by rw [Distinct]; decide +kernel
  have heq : h = ofItems (Query.ofText .default "Filter") [row, column, domain, range] (-1) :=
    ofSearch_eq_ofItems (by decide +kernel) hd
  obtain ⟨hshown, -, htracks⟩ := shown_passed_four (Query.ofText .default "Filter") hd
  rw [← heq] at hshown htracks
  refine ⟨.ofSearch _ _, by simp [moves], by decide, htracks range (by simp),
    htracks column (by simp), fun honce ↦ ?_⟩
  have hbetween := honce [] [domain, row] [] range range hshown BEq.rfl BEq.rfl (by decide)
  exact absurd hbetween (by decide)

end Hits

end LiveFind
