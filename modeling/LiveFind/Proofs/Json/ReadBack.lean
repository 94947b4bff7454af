import LiveFind.Json.Record
import LiveFind.Proofs.Json.Literals
import LiveFind.Proofs.Json.Skipping
import LiveFind.Proofs.Json.Values

/-!
# Values are read back

A value without doubles is read from what is written of it, whatever follows, if it has no more
levels than the reader allows. If it has more, the reader says that the text nests too deep, and
nothing else (`WellFormed.readsBack`). The induction is on the value. Items and members are gone
through in the order of the text, each with what the induction says of it: the first one that has
too many levels ends the reading, and up to there all have been read back. The members read so far
stay ascending, so that each next one is put at their end.

A record is read member by member. What a member makes of a draft is said of that member alone, and
`Record.reads_cons` puts it in front of what the members behind it make (`Record.Reads.readText`).

The length of what is written is always enough fuel.
-/

namespace LiveFind.Json

/-! ### Between values -/

/-- A value without doubles starts with neither a blank nor the end of an array. -/
theorem exists_write_eq_cons {j : Json} (hj : j.hasFloat = false) :
    ∃ c cs, j.write = c :: cs ∧ c ∉ [' ', '\n', '\t', '\r'] ∧ c ≠ ']' := by
  cases j with
  | null => exact ⟨_, _, rfl, by decide, by decide⟩
  | bool b => cases b <;> exact ⟨_, _, rfl, by decide, by decide⟩
  | int n =>
    obtain ⟨c, cs, heq, hc⟩ := exists_writeInt_eq_cons n
    refine ⟨c, cs, heq, ?_⟩
    rcases hc with rfl | hdigit
    · decide
    · exact ⟨not_mem_blanks_of_isDigit hdigit, ne_of_isDigit hdigit rfl⟩
  | float bits => exact absurd hj (by simp [hasFloat])
  | str s => exact ⟨_, _, rfl, by decide, by decide⟩
  | arr items => exact ⟨_, _, rfl, by decide, by decide⟩
  | obj members => exact ⟨_, _, rfl, by decide, by decide⟩

theorem length_write_pos {j : Json} (hj : j.hasFloat = false) : 0 < j.write.length := by
  obtain ⟨c, cs, heq, -⟩ := exists_write_eq_cons hj
  rw [heq]
  exact Nat.succ_pos _

theorem nextItem_comma (cs : List Char) :
    nextItem false (',' :: cs) =
      match dropBlanks cs with
      | [] => .error .endInValue
      | ']' :: _ => .error .trailingComma
      | rest => .ok (true, rest) := rfl

theorem nextItem_written {j : Json} (hj : j.hasFloat = false) (first : Bool) (rest : List Char) :
    nextItem first ((if first then [] else [',']) ++ (j.write ++ rest)) =
      .ok (true, j.write ++ rest) := by
  obtain ⟨c, cs, heq, hblank, hend⟩ := exists_write_eq_cons hj
  have hblanks := dropBlanks_cons hblank (cs ++ rest)
  rw [heq, List.cons_append]
  cases first with
  | true =>
    rw [if_pos rfl, List.nil_append, nextItem, hblanks]
    split
    · rename_i hnil
      cases hnil
    · rename_i hcons
      exact absurd (List.cons_eq_cons.1 hcons).1 hend
    · rename_i hcons
      rw [if_pos rfl, hcons]
  | false =>
    rw [if_neg (by decide), List.singleton_append, nextItem_comma, hblanks]
    split
    · rename_i hnil
      cases hnil
    · rename_i hcons
      exact absurd (List.cons_eq_cons.1 hcons).1 hend
    · rfl

theorem nextKey_written (first : Bool) (key : String) (rest : List Char) :
    nextKey first ((if first then [] else [',']) ++ (writeString key ++ rest)) =
      .ok (true, key.toList.flatMap escapeChar ++ '"' :: rest) := by
  rw [writeString_append]
  cases first <;> rfl

theorem readColon_written (cs : List Char) : readColon (':' :: cs) = .ok cs := rfl

/-! ### Values -/

/-- The answer where the levels are allowed, and the fault of too many levels otherwise. -/
def ifAllowed {α : Type} (levels depth : Nat) (a : α) : Except Fault α :=
  if levels ≤ depth then .ok a else .error .nestedTooDeep

/-- The value is read back behind its text, whatever follows. -/
def ReadsBack (j : Json) : Prop :=
  ∀ (fuel depth : Nat) (rest : List Char), j.write.length ≤ fuel → EndsNumber rest →
    readValue fuel depth (j.write ++ rest) = ifAllowed j.levels depth (j, rest)

theorem endsNumber_writeItems (items : List Json) (rest : List Char) :
    EndsNumber (writeItems false items ++ rest) := by
  cases items <;> exact endsNumber_cons (by decide) (by decide) (by decide) (by decide)

theorem endsNumber_writeMembers (members : List (String × Json)) (rest : List Char) :
    EndsNumber (writeMembers false members ++ rest) := by
  cases members <;> exact endsNumber_cons (by decide) (by decide) (by decide) (by decide)

theorem length_writeItems_cons (first : Bool) (item : Json) (items : List Json) :
    item.write.length + (writeItems false items).length ≤
      (writeItems first (item :: items)).length := by
  rw [writeItems, List.length_append, List.length_append]
  exact Nat.le_add_left _ _

theorem length_writeItems_pos (first : Bool) (items : List Json) :
    0 < (writeItems first items).length := by
  induction items generalizing first with
  | nil => exact Nat.succ_pos _
  | cons item items ih =>
    exact Nat.lt_of_lt_of_le (Nat.add_pos_right _ (ih false))
      (length_writeItems_cons first item items)

theorem readItems_writeItems {items : List Json}
    (hitems : ∀ item ∈ items, item.hasFloat = false → ReadsBack item)
    (hfloat : itemsHaveFloat items = false) (fuel : Nat) (first : Bool)
    (hfuel : (writeItems first items).length ≤ fuel) (depth : Nat) (rest : List Char) :
    readItems fuel depth first (writeItems first items ++ rest) =
      ifAllowed (itemsLevels items) depth (items, rest) := by
  induction items generalizing fuel first with
  | nil =>
    cases fuel with
    | zero => exact absurd hfuel (Nat.not_succ_le_zero _)
    | succ fuel => simp [writeItems, readItems, nextItem, dropBlanks, ifAllowed, itemsLevels]
  | cons item items ih =>
    obtain ⟨hitem, hitems⟩ := List.forall_mem_cons.1 hitems
    rw [itemsHaveFloat, Bool.or_eq_false_iff] at hfloat
    have hsum := Nat.le_trans (length_writeItems_cons first item items) hfuel
    have hpos := length_write_pos hfloat.1
    have hpositive := length_writeItems_pos false items
    cases fuel with
    | zero => omega
    | succ fuel =>
      have hread := hitem hfloat.1 fuel depth _ (by omega) (endsNumber_writeItems items rest)
      have hmore := ih hitems hfloat.2 fuel false (by omega)
      rw [writeItems, List.append_assoc, List.append_assoc, readItems, nextItem_written hfloat.1]
      simp only [hread, ifAllowed, itemsLevels, Nat.max_le]
      by_cases hdepth : item.levels ≤ depth
      · by_cases hdepths : itemsLevels items ≤ depth <;> simp [hdepth, hdepths, hmore, ifAllowed]
      · simp [hdepth]

theorem length_writeMembers_cons (first : Bool) (key : String) (value : Json)
    (members : List (String × Json)) :
    (writeString key).length + value.write.length + (writeMembers false members).length <
      (writeMembers first ((key, value) :: members)).length := by
  rw [writeMembers, List.length_append, List.length_append, List.length_cons, List.length_append]
  omega

theorem length_writeMembers_pos (first : Bool) (members : List (String × Json)) :
    0 < (writeMembers first members).length := by
  cases members with
  | nil => exact Nat.succ_pos _
  | cons m members => exact Nat.zero_lt_of_lt (length_writeMembers_cons first m.1 m.2 members)

theorem readMembers_writeMembers {members : List (String × Json)}
    (hvalues : ∀ m ∈ members, m.2.hasFloat = false → ReadsBack m.2)
    (hfloat : membersHaveFloat members = false) (before : List (String × Json))
    (hascends : Ascends (before ++ members)) (fuel : Nat) (first : Bool)
    (hfuel : (writeMembers first members).length ≤ fuel) (depth : Nat) (rest : List Char) :
    readMembers fuel depth first before (writeMembers first members ++ rest) =
      ifAllowed (membersLevels members) depth (before ++ members, rest) := by
  induction members generalizing fuel first before with
  | nil =>
    cases fuel with
    | zero => exact absurd hfuel (Nat.not_succ_le_zero _)
    | succ fuel => simp [writeMembers, readMembers, nextKey, dropBlanks, ifAllowed, membersLevels]
  | cons m members ih =>
    obtain ⟨key, value⟩ := m
    obtain ⟨hvalue, hvalues⟩ := List.forall_mem_cons.1 hvalues
    rw [membersHaveFloat, Bool.or_eq_false_iff] at hfloat
    replace hvalue : ReadsBack value := hvalue hfloat.1
    have hsum := Nat.lt_of_lt_of_le (length_writeMembers_cons first key value members) hfuel
    have hpositive := length_writeMembers_pos false members
    cases fuel with
    | zero => omega
    | succ fuel =>
      have hkey : (writeString key).length ≤ fuel + 1 := by omega
      have hread := hvalue fuel depth _ (by omega) (endsNumber_writeMembers members rest)
      have hput : insertMember key value before = before ++ [(key, value)] :=
        insertMember_of_lt
          (fun n hn ↦ (List.pairwise_append.1 hascends).2.2 n hn _ List.mem_cons_self) value
      have hmore := ih hvalues hfloat.2 (before ++ [(key, value)])
        (by rwa [List.append_assoc, List.singleton_append]) fuel false (by omega)
      rw [writeMembers, List.append_assoc, List.append_assoc, List.cons_append, List.append_assoc,
        readMembers, nextKey_written]
      simp only [readString_escaped hkey, readColon_written, hread, ifAllowed, membersLevels,
        Nat.max_le]
      by_cases hdepth : value.levels ≤ depth
      · by_cases hdepths : membersLevels members ≤ depth <;>
          simp [hdepth, hdepths, hput, hmore, ifAllowed]
      · simp [hdepth]

/-- What starts with a sign or a digit is read as a number. -/
theorem readValue_number {c : Char} (hc : c = '-' ∨ c.isDigit = true) (fuel depth : Nat)
    (cs : List Char) :
    readValue (fuel + 1) depth (c :: cs) =
      (readNumber (c :: cs)).map fun (n, rest) ↦ (ofNumber n, rest) := by
  rcases hc with rfl | hdigit
  · rfl
  · rw [readValue, dropBlanks_cons (not_mem_blanks_of_isDigit hdigit)]
    split
    · rename_i hnil
      cases hnil
    -- none of the six other kinds of values starts with a digit
    iterate 6
      rename_i hcons
      exact absurd (List.cons_eq_cons.1 hcons).1 (ne_of_isDigit hdigit rfl)
    · rename_i hcons
      obtain ⟨rfl, rfl⟩ := List.cons_eq_cons.1 hcons
      rw [if_pos (by rw [hdigit, Bool.or_true])]

/-- There is some fuel as soon as it exceeds the length of what is written. -/
theorem readsBack_of_succ {j : Json} (hfloat : j.hasFloat = false)
    (h : ∀ (fuel depth : Nat) (rest : List Char), j.write.length ≤ fuel + 1 → EndsNumber rest →
      readValue (fuel + 1) depth (j.write ++ rest) = ifAllowed j.levels depth (j, rest)) :
    ReadsBack j := by
  intro fuel depth rest hfuel hrest
  have hpos := length_write_pos hfloat
  cases fuel with
  | zero => omega
  | succ fuel => exact h fuel depth rest hfuel hrest

theorem ifAllowed_zero {α : Type} (depth : Nat) (a : α) : ifAllowed 0 depth a = .ok a :=
  if_pos (Nat.zero_le depth)

theorem map_ifAllowed {α β : Type} (levels depth : Nat) (a : α) (f : α → β) :
    (ifAllowed levels depth a).map f = ifAllowed levels depth (f a) := by
  unfold ifAllowed
  split <;> rfl

/-- A level is taken off what is allowed where an array or an object starts. -/
theorem ifAllowed_succ {α β : Type} (levels depth : Nat) (a : α) (f : α → β) :
    (if depth = 0 then .error .nestedTooDeep else (ifAllowed levels (depth - 1) a).map f) =
      ifAllowed (levels + 1) depth (f a) := by
  cases depth with
  | zero => rfl
  | succ depth =>
    rw [if_neg (Nat.succ_ne_zero depth), map_ifAllowed, ifAllowed, ifAllowed, Nat.add_sub_cancel]
    simp only [Nat.add_le_add_iff_right]

/-- A value without doubles is read back if it has no more levels than are allowed, and otherwise it
nests too deep. -/
theorem WellFormed.readsBack {j : Json} (hj : j.WellFormed) (hfloat : j.hasFloat = false) :
    ReadsBack j := by
  induction hj with
  | null => exact readsBack_of_succ hfloat fun fuel depth rest _ _ ↦ (ifAllowed_zero depth _).symm
  | bool b =>
    refine readsBack_of_succ hfloat fun fuel depth rest _ _ ↦ ?_
    cases b <;> exact (ifAllowed_zero depth _).symm
  | @int n hle hlt =>
    refine readsBack_of_succ hfloat fun fuel depth rest _ hrest ↦ ?_
    obtain ⟨c, cs, heq, hc⟩ := exists_writeInt_eq_cons n
    have hread := readNumber_writeInt (n := n) (by simpa [negativeLimit] using hle)
      (by simp only [significandLimit]; omega) hrest
    rw [write, heq, List.cons_append, readValue_number hc, ← List.cons_append, ← heq, hread]
    exact (ifAllowed_zero depth _).symm
  | float bits => exact absurd hfloat (by simp [hasFloat])
  | str s =>
    refine readsBack_of_succ hfloat fun fuel depth rest hfuel _ ↦ ?_
    rw [write, writeString_append, readValue, dropBlanks_cons (by decide)]
    simp only [readString_escaped hfuel]
    exact (ifAllowed_zero depth _).symm
  | @arr items hitems ih =>
    refine readsBack_of_succ hfloat fun fuel depth rest hfuel _ ↦ ?_
    rw [write, List.length_cons] at hfuel
    have hread := readItems_writeItems ih hfloat fuel true (Nat.le_of_succ_le_succ hfuel)
      (depth - 1) rest
    rw [write, List.cons_append, readValue, dropBlanks_cons (by decide)]
    simp only [hread, levels]
    exact ifAllowed_succ _ _ _ _
  | obj hkeys hvalues ih =>
    refine readsBack_of_succ hfloat fun fuel depth rest hfuel _ ↦ ?_
    rw [write, List.length_cons] at hfuel
    have hread := readMembers_writeMembers ih hfloat [] hkeys fuel true
      (Nat.le_of_succ_le_succ hfuel) (depth - 1) rest
    rw [write, List.cons_append, readValue, dropBlanks_cons (by decide)]
    simp only [hread, levels]
    exact ifAllowed_succ _ _ _ _

/-! ### Records -/

section Record

theorem readStringField_written {fuel : Nat} {s : String}
    (hfuel : (writeString s).length ≤ fuel + 1) (rest : List Char) :
    readStringField fuel (writeString s ++ rest) = .ok (s, rest) := by
  rw [writeString_append, readStringField, dropBlanks_cons (by decide)]
  exact readString_escaped hfuel rest

theorem readOptionalStringField_written {fuel : Nat} {s : String}
    (hfuel : (writeString s).length ≤ fuel + 1) (rest : List Char) :
    readOptionalStringField fuel (writeString s ++ rest) = .ok (some s, rest) := by
  have hread := readStringField_written hfuel rest
  rw [writeString_append] at hread ⊢
  rw [readOptionalStringField, dropBlanks_cons (by decide)]
  exact congrArg (Except.map fun r ↦ (some r.1, r.2)) hread

variable {σ α : Type} {r : Record σ α} {key : String} {value : Json} {draft : σ}

/-- The answer of reading the member from its text, for whatever members follow. -/
def Record.Takes (r : Record σ α) (draft : σ) (key : String) (value : Json) (x : Except Fault σ) :
    Prop :=
  ∀ (fuel : Nat) (rest : List Char), value.write.length ≤ fuel → EndsNumber rest →
    r.member fuel draft key (':' :: (value.write ++ rest)) = x.map (·, rest)

/-- A field that is still empty is filled with what is read behind the colon. -/
theorem Record.takes_field {β : Type} {set : β → σ}
    {read : Nat → List Char → Except Fault (β × List Char)} {x : Except Fault β}
    (hmember : ∀ fuel cs, r.member fuel draft key cs = fillField key none set (read fuel) cs)
    (hread : ∀ (fuel : Nat) (rest : List Char), value.write.length ≤ fuel → EndsNumber rest →
      read fuel (value.write ++ rest) = x.map (·, rest)) :
    r.Takes draft key value (x.map set) := by
  intro fuel rest hfuel hrest
  rw [hmember, fillField, readColon_written]
  simp only [Option.isSome_none, Bool.false_eq_true, if_false, bind, Except.bind,
    hread fuel rest hfuel hrest]
  cases x <;> rfl

theorem Record.takes_string (set : String → σ)
    (hmember : ∀ fuel cs, r.member fuel draft key cs =
      fillField key none set (readStringField fuel) cs) (s : String) :
    r.Takes draft key (str s) (.ok (set s)) :=
  takes_field (x := .ok s) hmember fun _ rest hfuel _ ↦
    readStringField_written (Nat.le_succ_of_le hfuel) rest

theorem Record.takes_optionalString (set : Option String → σ)
    (hmember : ∀ fuel cs, r.member fuel draft key cs =
      fillField key none set (readOptionalStringField fuel) cs) (s : String) :
    r.Takes draft key (str s) (.ok (set (some s))) :=
  takes_field (x := .ok (some s)) hmember fun _ rest hfuel _ ↦
    readOptionalStringField_written (Nat.le_succ_of_le hfuel) rest

theorem Record.takes_value (set : Json → σ) {depth : Nat}
    (hmember : ∀ fuel cs, r.member fuel draft key cs =
      fillField key none set (readValue fuel depth) cs)
    (hvalue : value.WellFormed) (hfloat : value.hasFloat = false) :
    r.Takes draft key value (ifAllowed value.levels depth (set value)) := by
  rw [← map_ifAllowed]
  refine takes_field hmember fun fuel rest hfuel hrest ↦ ?_
  rw [map_ifAllowed]
  exact hvalue.readsBack hfloat fuel depth rest hfuel hrest

/-- The answer of reading the members from their text up to the end of the object. -/
def Record.Reads (r : Record σ α) (draft : σ) (members : List (String × Json))
    (x : Except Fault σ) : Prop :=
  ∀ (fuel : Nat) (first : Bool), (writeMembers first members).length ≤ fuel →
    r.readMembers fuel first draft (writeMembers first members) = x.map (·, [])

theorem Record.reads_nil : r.Reads draft [] (.ok draft) := by
  intro fuel first hfuel
  cases fuel with
  | zero => exact absurd hfuel (Nat.not_succ_le_zero _)
  | succ fuel => simp [writeMembers, readMembers, nextKey, dropBlanks, Except.map]

/-- The members behind a member go on from what it makes of the draft. -/
theorem Record.reads_cons {members : List (String × Json)} {x : Except Fault σ}
    {f : σ → Except Fault σ} (hmember : r.Takes draft key value x)
    (hmembers : ∀ next, x = .ok next → r.Reads next members (f next)) :
    r.Reads draft ((key, value) :: members) (x >>= f) := by
  intro fuel first hfuel
  have hsum := Nat.lt_of_lt_of_le (length_writeMembers_cons first key value members) hfuel
  cases fuel with
  | zero => omega
  | succ fuel =>
    have hkey : (writeString key).length ≤ fuel + 1 := by omega
    have hends := endsNumber_writeMembers members []
    rw [List.append_nil] at hends
    have htaken := hmember fuel _ (by omega) hends
    rw [writeMembers, readMembers, nextKey_written]
    simp only [readString_escaped hkey, htaken]
    cases x with
    | error fault => rfl
    | ok next => exact hmembers next rfl fuel false (by omega)

theorem Record.Reads.cons {members : List (String × Json)} {x : Except Fault σ} {next : σ}
    (h : r.Reads next members x) (hmember : r.Takes draft key value (.ok next)) :
    r.Reads draft ((key, value) :: members) x :=
  reads_cons (f := fun _ ↦ x) hmember fun _ hnext ↦ Except.ok.inj hnext ▸ h

theorem Record.reads_singleton {x : Except Fault σ} (hmember : r.Takes draft key value x) :
    r.Reads draft [(key, value)] x := by
  have h := reads_cons (f := pure) hmember fun _ _ ↦ reads_nil
  rwa [bind_pure] at h

/-- A record is read from the text of its members as the last draft is finished. -/
theorem Record.Reads.readText {members : List (String × Json)} {x : Except Fault σ}
    (h : r.Reads r.empty members x) :
    r.readText (obj members).toText.toList = x >>= r.finish := by
  have hread := h ((writeMembers true members).length + 1 + 1) true (by omega)
  rw [toText, String.toList_ofList, write, Record.readText, Record.read,
    dropBlanks_cons (by decide)]
  simp only [List.length_cons, hread]
  cases x with
  | error fault => rfl
  | ok draft =>
    simp only [bind, Except.bind, Except.map]
    cases r.finish draft <;> rfl

end Record

end LiveFind.Json
