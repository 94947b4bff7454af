import LiveFind.Pattern.Match

/-!
# What patterns describe

`Expr.Describes` says which runs of a text an expression describes, one constructor at a time. What
stands before a run and after it counts for the conditions on places only.

The matcher works on sets of places instead, and `Follows` is what ties the two together: a function
on sets of places follows a description if it takes a set to the ends of the runs that start there.
Each constructor keeps this up (`follows_plan`), so a pattern occurs in a text if and only if it
describes some run of it (`Expr.occursIn_iff`).

Two facts about repetitions carry the proof. The matcher stops as soon as a round changes nothing,
and from there on no round would (`iterate_succ`, `spread_eq_iterate`). And where there is no bound,
it makes as many rounds as the text has characters and one more, which is enough, since rounds that
describe the empty run can be left out (`Description.exists_repeated_le`).
-/

namespace LiveFind.Pattern

/-- What may be said of a run of a text that stands between two others. -/
abbrev Description := List Char → List Char → List Char → Prop

namespace Description

/-- A run of the first kind, and behind it one of the second. -/
def followedBy (A B : Description) : Description := fun before run after ↦
  ∃ s t, run = s ++ t ∧ A before s (t ++ after) ∧ B (before ++ s) t after

/-- The given number of runs in a row. -/
def repeated (A : Description) : Nat → Description
  | 0 => fun _ run _ ↦ run = []
  | n + 1 => A.followedBy (A.repeated n)

/-- At most the given number of runs in a row. -/
def atMost (A : Description) (n : Nat) : Description := fun before run after ↦
  ∃ k ≤ n, A.repeated k before run after

variable {A : Description} {before run after : List Char}

theorem followedBy_assoc (A B C : Description) :
    (A.followedBy B).followedBy C before run after ↔
      A.followedBy (B.followedBy C) before run after := by
  constructor
  · rintro ⟨_, u, rfl, ⟨s, t, rfl, hs, ht⟩, hu⟩
    rw [← List.append_assoc] at hs hu
    exact ⟨s, t ++ u, List.append_assoc s t u, hs, t, u, rfl, ht, hu⟩
  · rintro ⟨s, _, rfl, hs, t, u, rfl, ht, hu⟩
    rw [List.append_assoc] at hs hu
    exact ⟨s ++ t, u, (List.append_assoc s t u).symm, ⟨s, t, rfl, hs, ht⟩, hu⟩

theorem followedBy_congr {A A' B B' : Description}
    (hA : ∀ u s v, A u s v ↔ A' u s v) (hB : ∀ u s v, B u s v ↔ B' u s v) :
    A.followedBy B before run after ↔ A'.followedBy B' before run after := by
  simp only [followedBy, hA, hB]

theorem repeated_add (m n : Nat) :
    (A.repeated m).followedBy (A.repeated n) before run after ↔
      A.repeated (m + n) before run after := by
  induction m generalizing before run after with
  | zero =>
    rw [Nat.zero_add]
    constructor
    · rintro ⟨s, t, rfl, rfl, ht⟩
      rwa [List.append_nil] at ht
    · intro h
      exact ⟨[], run, rfl, rfl, by rwa [List.append_nil]⟩
  | succ m ih =>
    rw [Nat.succ_add, repeated, repeated, followedBy_assoc]
    exact followedBy_congr (fun _ _ _ ↦ Iff.rfl) fun _ _ _ ↦ ih

/-- One more round may be made or left out. -/
theorem atMost_succ (n : Nat) :
    A.atMost (n + 1) before run after ↔
      followedBy (fun u s v ↦ s = [] ∨ A u s v) (A.atMost n) before run after := by
  constructor
  · rintro ⟨k, hk, h⟩
    cases k with
    | zero =>
      refine ⟨[], run, rfl, .inl rfl, 0, Nat.zero_le n, h⟩
    | succ k =>
      obtain ⟨s, t, hrun, hs, ht⟩ := h
      exact ⟨s, t, hrun, .inr hs, k, Nat.le_of_succ_le_succ hk, ht⟩
  · rintro ⟨s, t, rfl, rfl | hs, k, hk, ht⟩
    · rw [List.append_nil] at ht
      exact ⟨k, Nat.le_succ_of_le hk, ht⟩
    · exact ⟨k + 1, Nat.succ_le_succ hk, s, t, rfl, hs, ht⟩

/-- Rounds that may be made or not are rounds up to a number. -/
theorem repeated_or_nil (n : Nat) :
    repeated (fun u s v ↦ s = [] ∨ A u s v) n before run after ↔ A.atMost n before run after := by
  induction n generalizing before run after with
  | zero =>
    constructor
    · intro h
      exact ⟨0, Nat.le_refl 0, h⟩
    · rintro ⟨k, hk, h⟩
      rwa [Nat.le_zero.1 hk] at h
  | succ n ih =>
    rw [atMost_succ, repeated]
    exact followedBy_congr (fun _ _ _ ↦ Iff.rfl) fun _ _ _ ↦ ih

/-- Rounds that describe the empty run can be left out, and the others are at most as many as the
characters. -/
theorem exists_repeated_le {n : Nat} (h : A.repeated n before run after) :
    ∃ k ≤ run.length, A.repeated k before run after := by
  induction n generalizing before run with
  | zero => exact ⟨0, Nat.zero_le _, h⟩
  | succ n ih =>
    obtain ⟨s, t, rfl, hs, ht⟩ := h
    obtain ⟨k, hk, hkt⟩ := ih ht
    cases s with
    | nil =>
      rw [List.append_nil] at hkt
      exact ⟨k, hk, hkt⟩
    | cons c s =>
      refine ⟨k + 1, ?_, c :: s, t, rfl, hs, hkt⟩
      rw [List.length_append, List.length_cons]
      omega

end Description

/-- The runs that an expression describes. -/
def Expr.Describes : Expr → Description
  | .empty => fun _ run _ ↦ run = []
  | .char s => fun _ run _ ↦ ∃ c, run = [c] ∧ s.mem c = true
  | .place p => fun before run after ↦ run = [] ∧ p.holds before.getLast? after.head? = true
  | .seq a b => a.Describes.followedBy b.Describes
  | .alt a b => fun before run after ↦ a.Describes before run after ∨ b.Describes before run after
  | .times least most a => fun before run after ↦
    ∃ extra, (∀ n ∈ most, extra ≤ n - least) ∧
      a.Describes.repeated (least + extra) before run after

/-! ### Sets of places -/

theorem testBit_bits (l : List Bool) (i : Nat) : (bits l).testBit i = l[i]?.getD false := by
  induction l generalizing i with
  | nil => exact Nat.zero_testBit i
  | cons b l ih =>
    cases i with
    | zero => cases b <;> simp [bits, Nat.testBit_zero]
    | succ i =>
      have hhalf : (2 * bits l + b.toNat) / 2 = bits l := by
        have hb := b.toNat_le
        omega
      rw [bits, Nat.testBit_succ, hhalf, ih, List.getElem?_cons_succ]

theorem getElem?_neighbours (c? : Option Char) (before after : List Char) :
    (neighbours c? (before ++ after))[before.length]? =
      some (before.getLast?.or c?, after.head?) := by
  induction before generalizing c? with
  | nil => cases after <;> rfl
  | cons c before ih =>
    rw [List.cons_append, neighbours, List.length_cons, List.getElem?_cons_succ, ih,
      List.getLast?_cons]
    cases before.getLast? <;> rfl

variable {text : List Char}

/-- No place of the set is behind the end of the text. -/
def Within (text : List Char) (places : Nat) : Prop :=
  ∀ i, places.testBit i = true → i ≤ text.length

/-- A run of this kind starts at one of the places and ends here. -/
def Reaches (text : List Char) (A : Description) (places stop : Nat) : Prop :=
  ∃ before run after, text = before ++ run ++ after ∧ places.testBit before.length = true ∧
    (before ++ run).length = stop ∧ A before run after

/-- The function takes a set of places to those where runs of this kind end that start there. -/
def Follows (text : List Char) (f : Nat → Nat) (A : Description) : Prop :=
  ∀ places, Within text places → ∀ stop, (f places).testBit stop = true ↔
    Reaches text A places stop

/-- A place of the set cuts the text in two. -/
theorem Within.exists_cut {places i : Nat} (hw : Within text places)
    (hi : places.testBit i = true) : ∃ before after, text = before ++ after ∧ before.length = i :=
  ⟨text.take i, text.drop i, (List.take_append_drop i text).symm, List.length_take_of_le (hw i hi)⟩

theorem Follows.within {f : Nat → Nat} {A : Description} {places : Nat} (hf : Follows text f A)
    (hw : Within text places) : Within text (f places) := by
  intro i hi
  obtain ⟨before, run, after, rfl, -, rfl, -⟩ := (hf _ hw i).1 hi
  simp only [List.length_append]
  omega

theorem Follows.congr {f : Nat → Nat} {A A' : Description} (hf : Follows text f A)
    (hA : ∀ before run after, text = before ++ run ++ after →
      (A before run after ↔ A' before run after)) : Follows text f A' := by
  intro places hw stop
  rw [hf _ hw]
  constructor
  · rintro ⟨before, run, after, htext, hstart, hstop, h⟩
    exact ⟨before, run, after, htext, hstart, hstop, (hA _ _ _ htext).1 h⟩
  · rintro ⟨before, run, after, htext, hstart, hstop, h⟩
    exact ⟨before, run, after, htext, hstart, hstop, (hA _ _ _ htext).2 h⟩

/-! ### One constructor at a time -/

theorem follows_stay : Follows text (fun places ↦ places) fun _ run _ ↦ run = [] := by
  intro places hw stop
  constructor
  · intro hstop
    obtain ⟨before, after, htext, rfl⟩ := hw.exists_cut hstop
    exact ⟨before, [], after, by rw [htext, List.append_nil], hstop, by rw [List.append_nil], rfl⟩
  · rintro ⟨before, run, after, -, hstart, rfl, rfl⟩
    rw [List.append_nil]
    exact hstart

theorem follows_advance (p : Char → Bool) :
    Follows text (fun places ↦ (places &&& bits (text.map p)) <<< 1)
      fun _ run _ ↦ ∃ c, run = [c] ∧ p c = true := by
  intro places hw stop
  rw [Nat.testBit_shiftLeft, Nat.testBit_and, testBit_bits, List.getElem?_map]
  constructor
  · intro h
    simp only [Bool.and_eq_true, decide_eq_true_eq] at h
    obtain ⟨hpos, hstart, hmem⟩ := h
    obtain ⟨before, after, rfl, hlength⟩ := hw.exists_cut hstart
    rw [← hlength, List.getElem?_append_right (Nat.le_refl _), Nat.sub_self] at hmem
    rw [← hlength] at hstart
    cases after with
    | nil => cases hmem
    | cons c after =>
      refine ⟨before, [c], after, by rw [List.append_assoc]; rfl, hstart, ?_, c, rfl, hmem⟩
      rw [List.length_append, List.length_singleton]
      omega
  · rintro ⟨before, run, after, htext, hstart, rfl, c, rfl, hc⟩
    rw [List.append_assoc] at htext
    simp [htext, hstart, hc]

theorem follows_check (p : Place) :
    Follows text
      (· &&& bits ((neighbours none text).map fun (before, after) ↦ p.holds before after))
      fun before run after ↦ run = [] ∧ p.holds before.getLast? after.head? = true := by
  have hholds : ∀ {before after : List Char}, text = before ++ after →
      (bits ((neighbours none text).map fun (before, after) ↦ p.holds before after)).testBit
        before.length = p.holds before.getLast? after.head? := by
    rintro before after rfl
    rw [testBit_bits, List.getElem?_map, getElem?_neighbours, Option.or_none]
    rfl
  intro places hw stop
  rw [Nat.testBit_and, Bool.and_eq_true]
  constructor
  · rintro ⟨hstart, hcheck⟩
    obtain ⟨before, after, htext, rfl⟩ := hw.exists_cut hstart
    rw [hholds htext] at hcheck
    exact ⟨before, [], after, by rw [htext, List.append_nil], hstart, by rw [List.append_nil],
      rfl, hcheck⟩
  · rintro ⟨before, run, after, htext, hstart, rfl, rfl, hcheck⟩
    rw [List.append_nil] at htext ⊢
    exact ⟨hstart, (hholds htext).trans hcheck⟩

theorem Follows.comp {f g : Nat → Nat} {A B : Description} (hf : Follows text f A)
    (hg : Follows text g B) : Follows text (fun places ↦ g (f places)) (A.followedBy B) := by
  intro places hw stop
  rw [hg _ (hf.within hw)]
  constructor
  · rintro ⟨middle, t, after, htext, hmiddle, hstop, ht⟩
    obtain ⟨before, s, rest, htext', hstart, hlength, hs⟩ := (hf _ hw _).1 hmiddle
    -- the place in the middle cuts the text in one way
    rw [htext, List.append_assoc middle] at htext'
    obtain ⟨rfl, rfl⟩ := List.append_inj htext' hlength.symm
    refine ⟨before, s ++ t, after, ?_, hstart, ?_, s, t, rfl, hs, ht⟩
    · rw [htext, List.append_assoc before]
    · rw [← hstop, List.append_assoc before]
  · rintro ⟨before, _, after, rfl, hstart, hstop, s, t, rfl, hs, ht⟩
    rw [← List.append_assoc before] at hstop
    refine ⟨before ++ s, t, after, by rw [← List.append_assoc before], ?_, hstop, ht⟩
    exact (hf _ hw _).2 ⟨before, s, t ++ after, by simp, hstart, rfl, hs⟩

theorem Follows.or {f g : Nat → Nat} {A B : Description} (hf : Follows text f A)
    (hg : Follows text g B) : Follows text (fun places ↦ f places ||| g places)
      fun before run after ↦ A before run after ∨ B before run after := by
  intro places hw stop
  rw [Nat.testBit_or, Bool.or_eq_true, hf _ hw, hg _ hw]
  constructor
  · rintro (⟨before, run, after, htext, hstart, hstop, h⟩ |
      ⟨before, run, after, htext, hstart, hstop, h⟩)
    · exact ⟨before, run, after, htext, hstart, hstop, .inl h⟩
    · exact ⟨before, run, after, htext, hstart, hstop, .inr h⟩
  · rintro ⟨before, run, after, htext, hstart, hstop, h | h⟩
    · exact .inl ⟨before, run, after, htext, hstart, hstop, h⟩
    · exact .inr ⟨before, run, after, htext, hstart, hstop, h⟩

/-! ### Repetition -/

theorem iterate_of_fix {f : Nat → Nat} {s : Nat} (hs : f s = s) (n : Nat) : iterate f n s = s := by
  cases n with
  | zero => rfl
  | succ n => exact if_pos hs

/-- Stopping early leaves out rounds that change nothing. -/
theorem iterate_succ (f : Nat → Nat) (n s : Nat) : iterate f (n + 1) s = iterate f n (f s) := by
  show (if f s = s then s else iterate f n (f s)) = iterate f n (f s)
  split
  · rename_i hs
    rw [hs, iterate_of_fix hs]
  · rfl

theorem spread_eq_iterate (f : Nat → Nat) (n s : Nat) :
    spread f n s = iterate (fun t ↦ t ||| f t) n s := by
  induction n generalizing s with
  | zero => rfl
  | succ n ih =>
    rw [spread, iterate]
    simp only [ih]

theorem Follows.iterate_repeated {f : Nat → Nat} {A : Description} (hf : Follows text f A)
    (n : Nat) : Follows text (iterate f n) (A.repeated n) := by
  induction n with
  | zero => exact follows_stay
  | succ n ih =>
    have hstep : iterate f (n + 1) = fun places ↦ iterate f n (f places) :=
      funext (iterate_succ f n)
    rw [hstep]
    exact hf.comp ih

theorem Follows.spread_atMost {f : Nat → Nat} {A : Description} (hf : Follows text f A) (n : Nat) :
    Follows text (spread f n) (A.atMost n) := by
  have hrounds : spread f n = iterate (fun t ↦ t ||| f t) n :=
    funext (spread_eq_iterate f n)
  rw [hrounds]
  exact ((follows_stay.or hf).iterate_repeated n).congr fun _ _ _ _ ↦ Description.repeated_or_nil n

/-! ### Expressions -/

/-- The rounds that a plan makes: those that are asked for, and then some more. -/
theorem Follows.times {f : Nat → Nat} {A : Description} (hf : Follows text f A) (least n : Nat) :
    Follows text (fun places ↦ spread f n (iterate f least places)) fun before run after ↦
      ∃ extra ≤ n, A.repeated (least + extra) before run after := by
  refine ((hf.iterate_repeated least).comp (hf.spread_atMost n)).congr fun before run after _ ↦ ?_
  simp only [← Description.repeated_add, Description.followedBy, Description.atMost]
  constructor
  · rintro ⟨s, t, hrun, hs, extra, hextra, ht⟩
    exact ⟨extra, hextra, s, t, hrun, hs, ht⟩
  · rintro ⟨extra, hextra, s, t, hrun, hs, ht⟩
    exact ⟨s, t, hrun, hs, extra, hextra, ht⟩

/-- Without a bound, more rounds than the text has characters lead nowhere else. -/
theorem exists_extra_iff {A : Description} {least : Nat} {before run after : List Char}
    (htext : text = before ++ run ++ after) :
    (∃ extra ≤ text.length + 1, A.repeated (least + extra) before run after) ↔
      ∃ extra, A.repeated (least + extra) before run after := by
  refine ⟨fun ⟨extra, _, h⟩ ↦ ⟨extra, h⟩, fun ⟨extra, h⟩ ↦ ?_⟩
  obtain ⟨s, t, rfl, hs, ht⟩ := (Description.repeated_add least extra).2 h
  obtain ⟨k, hk, hkt⟩ := Description.exists_repeated_le ht
  refine ⟨k, ?_, (Description.repeated_add least k).1 ⟨s, t, rfl, hs, hkt⟩⟩
  have hlength := congrArg List.length htext
  simp only [List.length_append] at hlength
  omega

/-- A plan takes a set of places to the ends of the runs that its expression describes. -/
theorem follows_plan (e : Expr) : Follows text (e.plan text).run e.Describes := by
  induction e with
  | empty => exact follows_stay
  | char s => exact follows_advance s.mem
  | place p => exact follows_check p
  | seq a b iha ihb => exact iha.comp ihb
  | alt a b iha ihb => exact iha.or ihb
  | times least most a ih =>
    refine (ih.times least _).congr fun before run after htext ↦ ?_
    cases most with
    | none => simpa [Expr.Describes] using exists_extra_iff htext
    | some n => simp [Expr.Describes]

/-- A pattern occurs in a text if and only if it describes some run of it. -/
theorem Expr.occursIn_iff (e : Expr) (text : List Char) :
    e.occursIn text = true ↔
      ∃ before run after, text = before ++ run ++ after ∧ e.Describes before run after := by
  have hstart : ∀ i, (bits (List.replicate (text.length + 1) true)).testBit i = true ↔
      i ≤ text.length := by
    intro i
    rw [testBit_bits, List.getElem?_replicate]
    split <;> simp <;> omega
  have hends := follows_plan e _ fun i hi ↦ (hstart i).1 hi
  rw [Expr.occursIn, bne_iff_ne]
  constructor
  · intro hne
    obtain ⟨stop, hstop⟩ := Nat.exists_testBit_of_ne_zero hne
    obtain ⟨before, run, after, htext, -, -, h⟩ := (hends stop).1 hstop
    exact ⟨before, run, after, htext, h⟩
  · rintro ⟨before, run, after, htext, h⟩ hzero
    have hle : before.length ≤ text.length := by
      rw [htext, List.append_assoc, List.length_append]
      omega
    have hstop := (hends _).2 ⟨before, run, after, htext, (hstart _).2 hle, rfl, h⟩
    rw [hzero, Nat.zero_testBit] at hstop
    cases hstop

end LiveFind.Pattern
