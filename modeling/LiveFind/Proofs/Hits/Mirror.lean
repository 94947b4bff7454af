import LiveFind.Proofs.Hits.Anchor

/-!
# Hits kept elsewhere

A display keeps its own list of the hits and its own cursor, and all it hears are the changes and
how they were answered. `Mirror.enter?` makes such an entry and checks it: the index has to be a
place of the list, the item there has to equal the one that is said to go, and what the answer says
about the current item has to be what the mirror says about it.

No entry is ever rejected and the mirror is exact at every time (`Reachable.mirrored`). This rests
on the answer to a single change, which tells all that the change does to the hits
(`Sound.enter?_apply`).
-/

namespace LiveFind

variable {α : Type}

/-- The list and the cursor that somebody keeps of hits. -/
structure Mirror (α : Type) where
  items : List α
  cursor : Int
deriving Repr, DecidableEq

namespace Mirror

variable [BEq α]

/-- Enter how a change was answered, if that is possible where the mirror stands. -/
def enter? (m : Mirror α) : Change α → Outcome → Option (Mirror α)
  | .added a, .appended index =>
    if index ≤ m.items.length then some { m with items := m.items.insertIdx index a } else none
  | .removed a, .removed index wasCurrent =>
    if m.items[index]?.any (· == a) ∧ wasCurrent = ((index : Int) == m.cursor) then
      some
        { items := m.items.eraseIdx index
          cursor := if (index : Int) ≤ m.cursor then m.cursor - 1 else m.cursor }
    else none
  | _, .ignored | _, .dropped => some m
  | _, .appended _ | _, .removed .. => none

/-- Enter one answer after the other. -/
def replay? (m : Mirror α) (log : List (Change α × Outcome)) : Option (Mirror α) :=
  log.foldlM (fun m entry ↦ m.enter? entry.1 entry.2) m

theorem enter?_appended (m : Mirror α) (a : α) :
    m.enter? (.added a) (.appended m.items.length) = some { m with items := m.items ++ [a] } := by
  rw [enter?, if_pos (Nat.le_refl _), List.insertIdx_length_self]

theorem enter?_removed {m : Mirror α} {a : α} {index : Nat} (hi : index < m.items.length)
    (ha : (m.items[index] == a) = true) :
    m.enter? (.removed a) (.removed index ((index : Int) == m.cursor)) =
      some
        { items := m.items.eraseIdx index
          cursor := if (index : Int) ≤ m.cursor then m.cursor - 1 else m.cursor } := by
  have hcheck : m.items[index]?.any (· == a) = true := by
    rw [List.getElem?_eq_getElem hi]
    exact ha
  rw [enter?, if_pos ⟨hcheck, rfl⟩]

/-- What does not concern the hits does not concern the mirror. -/
theorem enter?_of_ignored {o : Outcome} (ho : o = .ignored ∨ o = .dropped) (m : Mirror α)
    (c : Change α) : m.enter? c o = some m := by
  rcases ho with rfl | rfl <;> cases c <;> rfl

end Mirror

namespace Hits

variable [BEq α] [Hashable α]

/-- An exact mirror of hits. -/
def mirror (h : Hits α) : Mirror α where
  items := h.items
  cursor := h.cursor

variable [Findable α]

/-- The changes of a run, each with its answer. -/
def answered (h : Hits α) : List (Move α) → List (Change α × Outcome)
  | [] => []
  | .change viewClosed c :: moves =>
    (c, (h.apply viewClosed c).1) :: (h.apply viewClosed c).2.answered moves
  | m :: moves => (h.after m).answered moves

variable [EquivBEq α] [LawfulHashable α] {h : Hits α}

/-- The answer to a change can be entered, and makes an exact mirror exact again. -/
theorem Sound.enter?_apply (hs : h.Sound) (viewClosed : Bool) (c : Change α) :
    h.mirror.enter? c (h.apply viewClosed c).1 = some (h.apply viewClosed c).2.mirror := by
  rcases hs.apply_cases viewClosed c with
    ⟨a, i, hi, rfl, ha, -, heq⟩ | ⟨a, rfl, -, heq⟩ | ⟨o, ho, heq⟩
  · rw [heq]
    exact Mirror.enter?_removed (m := h.mirror) hi ha
  · rw [heq]
    exact h.mirror.enter?_appended a
  · rw [heq]
    exact Mirror.enter?_of_ignored ho h.mirror c

/-- Changes one after the other keep the mirror exact that enters their answers. -/
theorem Sound.replay?_answered (hs : h.Sound) {moves : List (Move α)}
    (hmoves : ∀ m ∈ moves, m.isChange = true) :
    h.mirror.replay? (h.answered moves) = some (h.run moves).mirror := by
  induction moves generalizing h with
  | nil => rfl
  | cons m moves ih =>
    obtain ⟨hm, hrest⟩ := List.forall_mem_cons.1 hmoves
    cases m with
    | change viewClosed c =>
      rw [answered, Mirror.replay?, List.foldlM_cons, hs.enter?_apply viewClosed c]
      exact ih (hs.apply viewClosed c) hrest
    | next | previous | retire => cases hm

/-- Hits change exactly when the answer says that an item came or went. -/
theorem Sound.apply_ne_iff (hs : h.Sound) (viewClosed : Bool) (c : Change α) :
    (h.apply viewClosed c).2 ≠ h ↔
      (∃ index, (h.apply viewClosed c).1 = .appended index) ∨
        ∃ index wasCurrent, (h.apply viewClosed c).1 = .removed index wasCurrent := by
  have hlength : ∀ {k : Hits α}, k.items.length ≠ h.items.length → k ≠ h :=
    fun hne hk ↦ hne (congrArg (·.items.length) hk)
  rcases hs.apply_cases viewClosed c with
    ⟨a, i, hi, -, -, -, heq⟩ | ⟨a, -, -, heq⟩ | ⟨o, ho, heq⟩
  · rw [heq]
    refine iff_of_true (hlength ?_) (.inr ⟨i, _, rfl⟩)
    have herase := List.length_eraseIdx_add_one hi
    show (h.items.eraseIdx i).length ≠ h.items.length
    omega
  · rw [heq]
    refine iff_of_true (hlength ?_) (.inl ⟨_, rfl⟩)
    show (h.items ++ [a]).length ≠ h.items.length
    simp
  · rw [heq]
    rcases ho with rfl | rfl <;> simp

/-! ### Every run of changes -/

/-- Who starts with the hits and their cursor, and from then on enters how each change was answered,
knows both after every change: there is no answer that cannot be entered. The hits change exactly
when the answer says that an item came or went. -/
theorem Reachable.mirrored (hr : h.Reachable) {moves : List (Move α)}
    (hmoves : ∀ m ∈ moves, m.isChange = true) (k : Nat) :
    h.mirror.replay? (h.answered (moves.take k)) = some (h.run (moves.take k)).mirror ∧
      ∀ viewClosed c, ((h.run (moves.take k)).apply viewClosed c).2 ≠ h.run (moves.take k) ↔
        (∃ index, ((h.run (moves.take k)).apply viewClosed c).1 = .appended index) ∨
          ∃ index wasCurrent,
            ((h.run (moves.take k)).apply viewClosed c).1 = .removed index wasCurrent :=
  ⟨hr.sound.replay?_answered fun m hm ↦ hmoves m (List.mem_of_mem_take hm),
    (hr.sound.run _).apply_ne_iff⟩

/-- The second of three nodes is shown and removed, and then the first one for a closed view. The
mirror enters the one and ignores the other. -/
theorem mirrored_nodes :
    let row : Node := { id := "node:1", kind := "filter", label := "Row" }
    let column : Node := { id := "node:2", kind := "filter", label := "Column" }
    let domain : Node := { id := "node:3", kind := "filter", label := "Domain" }
    let h := (ofSearch (Query.ofText .default "Filter") [row, column, domain]).run [.next, .next]
    let moves : List (Move Node) := [.change false (.removed column), .change true (.removed row)]
    h.Reachable ∧ (∀ m ∈ moves, m.isChange = true) ∧
      h.mirror = { items := [row, column, domain], cursor := 1 } ∧
      h.answered moves = [(.removed column, .removed 1 true), (.removed row, .dropped)] ∧
      h.mirror.replay? (h.answered moves) = some { items := [row, domain], cursor := 0 } ∧
      (h.run (moves.take 0)).after (.change false (.removed column)) ≠ h := by
  intro row column domain h moves
  have hr : h.Reachable := (Reachable.ofSearch _ _).run _
  have hmoves : ∀ m ∈ moves, m.isChange = true := by simp [moves, Move.isChange]
  have heq : h = ofItems (Query.ofText .default "Filter") [row, column, domain] 1 := by
    have hall : ofSearch (Query.ofText .default "Filter") [row, column, domain] =
        ofItems (Query.ofText .default "Filter") [row, column, domain] (-1) :=
      ofSearch_eq_ofItems (by decide +kernel) (by rw [Distinct]; decide +kernel)
    exact congrArg (·.run [.next, .next]) hall
  clear_value h
  have hremoved : h.apply false (.removed column) =
      (.removed 1 true, { ofItems (Query.ofText .default "Filter") [row, domain] 0 with
        members := h.members.erase column }) := by
    have hat := hr.sound.apply_removed_getElem (a := column) (by rw [heq]; rfl) 1
      (by simp [heq, ofItems]) (by simp [heq, ofItems])
    rw [hat, heq]
    rfl
  have hanswered :
      h.answered moves = [(.removed column, .removed 1 true), (.removed row, .dropped)] := by
    rw [answered, hremoved]
    rfl
  have hmirror : (h.run moves).mirror = { items := [row, domain], cursor := 0 } := by
    rw [run_cons, after, hremoved]
    rfl
  have hreplay := (hr.mirrored hmoves 2).1
  rw [show moves.take 2 = moves from rfl, hmirror] at hreplay
  refine ⟨hr, hmoves, by rw [heq]; rfl, hanswered, hreplay, ?_⟩
  refine ((hr.mirrored hmoves 0).2 false (.removed column)).2 (.inr ⟨1, true, ?_⟩)
  rw [List.take_zero, run_nil, hremoved]

end Hits

end LiveFind
