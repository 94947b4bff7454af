/-!
# Answers

What holds of an answer if there is one (`Yields`), and when there is one (`bind_eq_ok_iff`). Both
go through a sequence of steps part by part: what the first step yields is all that the next ones
need.
-/

namespace LiveFind

variable {ε α β : Type} {P : α → Prop} {Q : β → Prop}

/-- The answer, if there is one, satisfies `P`. -/
def Yields (x : Except ε α) (P : α → Prop) : Prop :=
  ∀ a, x = .ok a → P a

theorem yields_error (e : ε) : Yields (.error e : Except ε α) P :=
  fun a h ↦ by cases h

theorem yields_ok {a : α} (h : P a) : Yields (.ok a : Except ε α) P := by
  rintro b hb
  cases hb
  exact h

theorem Yields.bind {x : Except ε α} {f : α → Except ε β} (hx : Yields x P)
    (hf : ∀ a, P a → Yields (f a) Q) : Yields (x >>= f) Q := by
  cases x with
  | error e => exact yields_error e
  | ok a => exact hf a (hx a rfl)

theorem Yields.map {x : Except ε α} {f : α → β} (hx : Yields x P) (hf : ∀ a, P a → Q (f a)) :
    Yields (x.map f) Q := by
  cases x with
  | error e => exact yields_error e
  | ok a => exact yields_ok (hf a (hx a rfl))

theorem bind_eq_ok_iff {x : Except ε α} {f : α → Except ε β} {b : β} :
    (x >>= f) = .ok b ↔ ∃ a, x = .ok a ∧ f a = .ok b := by
  cases x <;> simp [bind, Except.bind]

theorem map_eq_ok_iff {x : Except ε α} {f : α → β} {b : β} :
    x.map f = .ok b ↔ ∃ a, x = .ok a ∧ f a = b := by
  cases x <;> simp [Except.map]

theorem yields_true (x : Except ε α) : Yields x fun _ ↦ True :=
  fun _ _ ↦ trivial

end LiveFind
