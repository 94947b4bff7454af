import LiveFind.Json.Record
import LiveFind.Proofs.Answers
import LiveFind.Proofs.Json.Numbers
import LiveFind.Proofs.Json.Values

/-!
# What the reader gives

Whatever a text holds, the values read from it are well formed, and they have at most the levels
that the reader allows (`yields_readValue`). `Yields` goes through a sequence of steps part by part,
so that each function of the reader has one lemma. Those that call each other have a lemma for one
unit of fuel more, and one induction on the fuel (`all_allowed`).
-/

namespace LiveFind.Json

/-! ### Numbers -/

/-- The number is a value as it is held, with text behind it. -/
def IsHeld (r : Number × List Char) : Prop :=
  (ofNumber r.1).WellFormed

theorem IsDouble.isHeld {r : Number × List Char} (h : IsDouble r) : IsHeld r := by
  obtain ⟨bits, hbits⟩ := h
  rw [IsHeld, hbits]
  exact .float bits

theorem absorb_le {n : Nat} (hn : n ≤ significandLimit) (digits : List Char) :
    (absorb n digits).1 ≤ significandLimit := by
  induction digits generalizing n with
  | nil => exact hn
  | cons c digits ih =>
    rw [absorb]
    dsimp only
    split
    · exact hn
    · rename_i hfits
      exact ih (Nat.not_lt.1 hfits)

theorem wellFormed_wholeNumber {n : Nat} (hn : n ≤ significandLimit) (negative : Bool) :
    (ofNumber (wholeNumber negative n)).WellFormed := by
  rw [significandLimit] at hn
  rw [wholeNumber]
  split
  · exact .int (by omega) (by omega)
  · split
    · rename_i hfits
      rw [negativeLimit] at hfits
      exact .int (by omega) (by omega)
    · exact .float _

theorem yields_readMagnitude (negative : Bool) (cs : List Char) :
    Yields (readMagnitude negative cs) IsHeld := by
  unfold readMagnitude
  dsimp only
  split
  · exact yields_error _
  · exact yields_error _
  · split
    · exact fun r hr ↦ (yields_readPlaces _ _ _ _ r hr).isHeld
    · exact fun r hr ↦ (yields_readExponent _ _ _ _ r hr).isHeld
    · exact fun r hr ↦ (yields_readExponent _ _ _ _ r hr).isHeld
    · split
      · exact yields_ok (wellFormed_wholeNumber (absorb_le (Nat.zero_le _) _) negative)
      · exact (yields_doubleOfParts _ _ _).bind fun _ h ↦ yields_ok (IsDouble.isHeld h)

theorem yields_readNumber (cs : List Char) : Yields (readNumber cs) IsHeld := by
  rw [readNumber.eq_def]
  split <;> exact yields_readMagnitude _ _

/-! ### Values -/

/-- The value is well formed and has at most the given levels. -/
def Allowed (depth : Nat) (j : Json) : Prop :=
  j.WellFormed ∧ j.levels ≤ depth

theorem allowed_of_levels_eq_zero {j : Json} (hj : j.WellFormed) (hzero : j.levels = 0)
    (depth : Nat) : Allowed depth j :=
  ⟨hj, hzero ▸ Nat.zero_le depth⟩

theorem Allowed.arr {depth : Nat} {items : List Json} (h : ∀ item ∈ items, Allowed depth item) :
    Allowed (depth + 1) (arr items) :=
  ⟨.arr fun item hitem ↦ (h item hitem).1,
    Nat.succ_le_succ (itemsLevels_le_iff.2 fun item hitem ↦ (h item hitem).2)⟩

theorem Allowed.obj {depth : Nat} {members : List (String × Json)} (hkeys : Ascends members)
    (h : ∀ m ∈ members, Allowed depth m.2) : Allowed (depth + 1) (obj members) :=
  ⟨.obj hkeys fun m hm ↦ (h m hm).1,
    Nat.succ_le_succ (membersLevels_le_iff.2 fun m hm ↦ (h m hm).2)⟩

theorem levels_ofNumber (x : Number) : (ofNumber x).levels = 0 := by
  cases x <;> rfl

/-- Whatever is read as a value with this fuel is well formed and within the levels allowed. -/
def ValuesAllowed (fuel : Nat) : Prop :=
  ∀ depth cs, Yields (readValue fuel depth cs) fun r ↦ Allowed depth r.1

/-- Whatever is read as the items of an array. -/
def ItemsAllowed (fuel : Nat) : Prop :=
  ∀ depth first cs, Yields (readItems fuel depth first cs) fun r ↦ ∀ item ∈ r.1, Allowed depth item

/-- Whatever is read as the members of an object; they ascend, as those before them did. -/
def MembersAllowed (fuel : Nat) : Prop :=
  ∀ depth first before cs, Ascends before → (∀ m ∈ before, Allowed depth m.2) →
    Yields (readMembers fuel depth first before cs) fun r ↦
      Ascends r.1 ∧ ∀ m ∈ r.1, Allowed depth m.2

variable {fuel : Nat}

theorem valuesAllowed_succ (hitems : ItemsAllowed fuel) (hmembers : MembersAllowed fuel) :
    ValuesAllowed (fuel + 1) := by
  intro depth cs
  rw [readValue]
  split
  · exact yields_error _
  · exact (yields_true _).map fun _ _ ↦ allowed_of_levels_eq_zero .null rfl depth
  · exact (yields_true _).map fun _ _ ↦ allowed_of_levels_eq_zero (.bool true) rfl depth
  · exact (yields_true _).map fun _ _ ↦ allowed_of_levels_eq_zero (.bool false) rfl depth
  · exact (yields_true _).map fun r _ ↦ allowed_of_levels_eq_zero (.str r.1) rfl depth
  · cases depth with
    | zero => exact yields_error _
    | succ depth => exact (hitems depth true _).map fun _ h ↦ .arr h
  · cases depth with
    | zero => exact yields_error _
    | succ depth =>
      exact (hmembers depth true [] _ List.Pairwise.nil (by simp)).map fun _ h ↦ .obj h.1 h.2
  · split
    · exact (yields_readNumber _).map fun r h ↦
        allowed_of_levels_eq_zero h (levels_ofNumber r.1) depth
    · exact yields_error _

theorem itemsAllowed_succ (hvalues : ValuesAllowed fuel) (hitems : ItemsAllowed fuel) :
    ItemsAllowed (fuel + 1) := by
  intro depth first cs
  rw [readItems]
  split
  · exact yields_error _
  · exact yields_ok (by simp)
  · split
    · exact yields_error _
    · rename_i hitem
      split
      · exact yields_error _
      · rename_i hmore
        exact yields_ok
          (List.forall_mem_cons.2 ⟨hvalues _ _ _ hitem, hitems _ _ _ _ hmore⟩)

theorem membersAllowed_succ (hvalues : ValuesAllowed fuel) (hmembers : MembersAllowed fuel) :
    MembersAllowed (fuel + 1) := by
  intro depth first before cs hkeys hbefore
  rw [readMembers]
  split
  · exact yields_error _
  · exact yields_ok ⟨hkeys, hbefore⟩
  · split
    · exact yields_error _
    · split
      · exact yields_error _
      · split
        · exact yields_error _
        · rename_i hvalue
          refine hmembers _ _ _ _ (ascends_insertMember hkeys _ _) fun m hm ↦ ?_
          rcases mem_insertMember hm with rfl | hm
          · exact hvalues _ _ _ hvalue
          · exact hbefore m hm

theorem all_allowed (fuel : Nat) :
    ValuesAllowed fuel ∧ ItemsAllowed fuel ∧ MembersAllowed fuel := by
  induction fuel with
  | zero =>
    exact ⟨fun _ _ ↦ yields_error _, fun _ _ _ ↦ yields_error _,
      fun _ _ _ _ _ _ ↦ yields_error _⟩
  | succ fuel ih =>
    obtain ⟨hvalues, hitems, hmembers⟩ := ih
    exact ⟨valuesAllowed_succ hitems hmembers, itemsAllowed_succ hvalues hitems,
      membersAllowed_succ hvalues hmembers⟩

theorem yields_readValue (fuel depth : Nat) (cs : List Char) :
    Yields (readValue fuel depth cs) fun r ↦ Allowed depth r.1 :=
  (all_allowed fuel).1 depth cs

/-! ### Records -/

section Record

variable {σ α : Type} {r : Record σ α} {P : α → Prop} {Q : σ → Prop}

/-- A field whose reader gives what is asked for. -/
theorem yields_fillField {β : Type} {R : β → Prop} {name : String} {current : Option β}
    {set : β → σ} {read : List Char → Except Fault (β × List Char)}
    (hread : ∀ cs, Yields (read cs) fun r ↦ R r.1) (hset : ∀ b, R b → Q (set b)) (cs : List Char) :
    Yields (fillField name current set read cs) fun r ↦ Q r.1 := by
  rw [fillField]
  split
  · exact yields_error _
  · exact (yields_true _).bind fun _ _ ↦ (hread _).bind fun b hb ↦ yields_ok (hset b.1 hb)

theorem yields_nextField {β : Type} {R : β → Prop} {first : Bool}
    {read : List Char → Except Fault (β × List Char)} (hread : ∀ cs, Yields (read cs) fun r ↦ R r.1)
    (cs : List Char) : Yields (nextField first read cs) fun r ↦ ∀ b, r.1 = some b → R b := by
  refine (yields_true _).bind fun r _ ↦ ?_
  dsimp only
  split
  · exact (hread _).bind fun b hb ↦ yields_ok fun c hc ↦ Option.some.inj hc ▸ hb
  · exact yields_ok fun c hc ↦ by cases hc

/-- What every member keeps of a draft holds once all members are read. -/
theorem Record.yields_readMembers
    (hmember : ∀ fuel draft key cs, Q draft → Yields (r.member fuel draft key cs) fun d ↦ Q d.1)
    (fuel : Nat) (first : Bool) {draft : σ} (hdraft : Q draft) (cs : List Char) :
    Yields (r.readMembers fuel first draft cs) fun d ↦ Q d.1 := by
  induction fuel generalizing first draft cs with
  | zero => exact yields_error _
  | succ fuel ih =>
    rw [readMembers]
    split
    · exact yields_error _
    · exact yields_ok hdraft
    · split
      · exact yields_error _
      · split
        · exact yields_error _
        · rename_i hnext
          exact ih false (hmember _ _ _ _ hdraft _ hnext) _

/-- A record is what its array or its last draft gives. -/
theorem Record.yields_readText (hempty : Q r.empty)
    (hmember : ∀ fuel draft key cs, Q draft → Yields (r.member fuel draft key cs) fun d ↦ Q d.1)
    (hitems : ∀ fuel cs, Yields (r.items fuel cs) fun a ↦ P a.1)
    (hfinish : ∀ draft, Q draft → Yields (r.finish draft) P) (cs : List Char) :
    Yields (r.readText cs) P := by
  have hread : Yields (r.read (cs.length + 1) cs) fun a ↦ P a.1 := by
    rw [read]
    split
    · exact yields_error _
    · exact (yields_readMembers hmember _ _ hempty _).bind fun d hd ↦
        (hfinish d.1 hd).bind fun a ha ↦ yields_ok ha
    · exact (hitems _ _).bind fun a ha ↦ (yields_true _).bind fun _ _ ↦ yields_ok ha
    · exact yields_error _
  refine hread.bind fun a ha ↦ ?_
  rw [atEnd]
  split
  · exact yields_ok ha
  · exact yields_error _

end Record

end LiveFind.Json
