import LiveFind.Json.Skip
import LiveFind.Proofs.Json.Numbers
import LiveFind.Proofs.Json.Strings

/-!
# Passing over values

Every value of the grammar is passed over, whatever its depth, up to what follows it
(`IsValue.skips`). The induction is on the value. Inside an array or an object it goes through the
items or members in the order of the text, each with the comma in front of it unless it is the first
one (`listed`), so that what is said of a single item or member holds of the list (`skips_listed`).

Blanks in front of a text make no difference to any of the functions, and they never continue a
number; so it does not matter where they stand. The length of the text is always enough fuel.
-/

namespace LiveFind.Json

/-! ### Blanks -/

theorem dropBlanks_cons {c : Char} (hc : c ∉ [' ', '\n', '\t', '\r']) (cs : List Char) :
    dropBlanks (c :: cs) = c :: cs := by
  rw [dropBlanks, List.dropWhile_cons_of_neg]
  simpa [or_assoc] using hc

theorem not_mem_blanks_of_isDigit {c : Char} (hc : c.isDigit = true) :
    c ∉ [' ', '\n', '\t', '\r'] := by
  intro hblank
  simp only [List.mem_cons, List.not_mem_nil, or_false] at hblank
  rcases hblank with rfl | rfl | rfl | rfl <;> exact absurd hc (by decide)

section Blanks

variable {blanks : List Char}

theorem IsBlank.dropBlanks_append (h : IsBlank blanks) (cs : List Char) :
    dropBlanks (blanks ++ cs) = dropBlanks cs := by
  rw [dropBlanks, List.dropWhile_append_of_pos fun c hc ↦ ?_, dropBlanks]
  simpa [or_assoc] using h c hc

theorem IsBlank.endsNumber_append (h : IsBlank blanks) {rest : List Char}
    (hrest : EndsNumber rest) : EndsNumber (blanks ++ rest) := by
  cases blanks with
  | nil => exact hrest
  | cons c blanks =>
    have hc := h c List.mem_cons_self
    simp only [List.mem_cons, List.not_mem_nil, or_false] at hc
    rcases hc with rfl | rfl | rfl | rfl <;>
      exact endsNumber_cons (by decide) (by decide) (by decide) (by decide)

theorem IsBlank.skipValue_append (h : IsBlank blanks) (fuel : Nat) (cs : List Char) :
    skipValue fuel (blanks ++ cs) = skipValue fuel cs := by
  cases fuel with
  | zero => rfl
  | succ fuel => rw [skipValue, skipValue, h.dropBlanks_append]

theorem IsBlank.skipItems_append (h : IsBlank blanks) (fuel : Nat) (first : Bool)
    (cs : List Char) : skipItems fuel first (blanks ++ cs) = skipItems fuel first cs := by
  cases fuel with
  | zero => rfl
  | succ fuel => rw [skipItems, skipItems, h.dropBlanks_append]

theorem IsBlank.skipMembers_append (h : IsBlank blanks) (fuel : Nat) (first : Bool)
    (cs : List Char) : skipMembers fuel first (blanks ++ cs) = skipMembers fuel first cs := by
  cases fuel with
  | zero => rfl
  | succ fuel => rw [skipMembers, skipMembers, h.dropBlanks_append]

theorem IsBlank.readColon_append (h : IsBlank blanks) (cs : List Char) :
    readColon (blanks ++ ':' :: cs) = .ok cs := by
  rw [readColon, h.dropBlanks_append, dropBlanks_cons (by decide)]
  rfl

end Blanks

/-! ### Lists -/

/-- The parts of a list, each with the comma in front of it unless it is the first one. -/
def listed (first : Bool) : List (List Char) → List Char
  | [] => []
  | part :: parts => (if first then [] else [',']) ++ (part ++ listed false parts)

theorem intercalate_eq_listed (parts : List (List Char)) :
    [','].intercalate parts = listed true parts := by
  induction parts with
  | nil => rfl
  | cons part parts ih =>
    cases parts with
    | nil => simp [listed]
    | cons next parts =>
      rw [List.intercalate_cons_cons, ih]
      simp [listed]

theorem endsNumber_listed (parts : List (List Char)) {rest : List Char} (hrest : EndsNumber rest) :
    EndsNumber (listed false parts ++ rest) := by
  cases parts with
  | nil => exact hrest
  | cons part parts => exact endsNumber_cons (by decide) (by decide) (by decide) (by decide)

theorem length_listed_cons (first : Bool) (part : List Char) (parts : List (List Char)) :
    part.length + (listed false parts).length ≤ (listed first (part :: parts)).length := by
  rw [listed, List.length_append, List.length_append]
  omega

/-- What is passed over part by part, with the comma in front of each, is passed over as a list. -/
theorem skips_listed {skip : Nat → Bool → List Char → Except Fault (List Char)} {stop : Char}
    {rest : List Char} (hstop : ∀ fuel first, skip (fuel + 1) first (stop :: rest) = .ok rest)
    {parts : List (List Char)}
    (hparts : ∀ part ∈ parts, part ≠ [] ∧ ∀ (fuel : Nat) (first : Bool) (rest : List Char),
      part.length ≤ fuel → EndsNumber rest →
        skip (fuel + 1) first ((if first then [] else [',']) ++ (part ++ rest)) =
          skip fuel false rest)
    (hends : EndsNumber (stop :: rest)) {fuel : Nat} {first : Bool}
    (hfuel : (listed first parts).length < fuel) :
    skip fuel first (listed first parts ++ stop :: rest) = .ok rest := by
  obtain ⟨fuel, rfl⟩ := Nat.exists_eq_add_one.2 (Nat.zero_lt_of_lt hfuel)
  induction parts generalizing fuel first with
  | nil => exact hstop fuel first
  | cons part parts ih =>
    obtain ⟨⟨hpart, hskip⟩, hparts⟩ := List.forall_mem_cons.1 hparts
    have hsum := length_listed_cons first part parts
    have hpos := List.length_pos_of_ne_nil hpart
    obtain ⟨fuel, rfl⟩ := Nat.exists_eq_add_one.2 (show 0 < fuel by omega)
    rw [listed, List.append_assoc, List.append_assoc,
      hskip _ _ _ (by omega) (endsNumber_listed parts hends)]
    exact ih hparts fuel (by omega)

/-! ### How values start -/

theorem IsNumber.exists_cons {cs : List Char} (h : IsNumber cs) :
    ∃ c rest, cs = c :: rest ∧ (c = '-' ∨ c.isDigit = true) := by
  obtain ⟨hsign, hwhole, -, -⟩ := h
  obtain ⟨c, digits, rfl, hc⟩ := hwhole.1.exists_cons
  simp only [List.mem_cons, List.not_mem_nil, or_false] at hsign
  rcases hsign with rfl | rfl
  · exact ⟨c, _, rfl, .inr hc⟩
  · exact ⟨'-', _, rfl, .inl rfl⟩

/-- A value starts with neither a blank nor the end of an array. -/
theorem IsValue.exists_cons {cs : List Char} (h : IsValue cs) :
    ∃ c rest, cs = c :: rest ∧ c ∉ [' ', '\n', '\t', '\r'] ∧ c ≠ ']' := by
  cases h with
  | word hcs =>
    simp only [List.mem_cons, List.not_mem_nil, or_false] at hcs
    rcases hcs with rfl | rfl | rfl <;> exact ⟨_, _, rfl, by decide, by decide⟩
  | number hcs =>
    obtain ⟨c, rest, rfl, hc⟩ := hcs.exists_cons
    refine ⟨c, rest, rfl, ?_⟩
    rcases hc with rfl | hdigit
    · decide
    · exact ⟨not_mem_blanks_of_isDigit hdigit, ne_of_isDigit hdigit rfl⟩
  | string => exact ⟨_, _, rfl, by decide, by decide⟩
  | array => exact ⟨_, _, rfl, by decide, by decide⟩
  | object => exact ⟨_, _, rfl, by decide, by decide⟩

/-! ### Passing over -/

/-- The value is passed over, whatever follows. -/
def Skips (text : List Char) : Prop :=
  ∀ (fuel : Nat) (rest : List Char), text.length ≤ fuel → EndsNumber rest →
    skipValue fuel (text ++ rest) = .ok rest

theorem Skips.append {s : Spaced} (h : Skips s.text) {fuel : Nat} (hfuel : s.chars.length ≤ fuel)
    {rest : List Char} (hrest : EndsNumber rest) :
    skipValue fuel (s.chars ++ rest) = .ok (s.after ++ rest) := by
  simp only [Spaced.chars, List.length_append] at hfuel
  rw [Spaced.chars, List.append_assoc, List.append_assoc, s.isBlank_before.skipValue_append]
  exact h fuel _ (by omega) (s.isBlank_after.endsNumber_append hrest)

theorem skipValue_of_isDigit {c : Char} (hc : c.isDigit = true) (fuel : Nat) (cs : List Char) :
    skipValue (fuel + 1) (c :: cs) = skipMagnitude (c :: cs) := by
  rw [skipValue, dropBlanks_cons (not_mem_blanks_of_isDigit hc)]
  split
  · rename_i hnil
    cases hnil
  -- none of the seven other kinds of values starts with a digit
  iterate 7
    rename_i hcons
    exact absurd (List.cons_eq_cons.1 hcons).1 (ne_of_isDigit hc rfl)
  · rename_i hcons
    obtain ⟨rfl, rfl⟩ := List.cons_eq_cons.1 hcons
    rw [if_pos hc]

theorem IsNumber.skipValue_append {cs rest : List Char} (hcs : IsNumber cs)
    (hrest : EndsNumber rest) (fuel : Nat) : skipValue (fuel + 1) (cs ++ rest) = .ok rest := by
  obtain ⟨hsign, hwhole, hfraction, hexponent⟩ := hcs
  have hskip := skipMagnitude_append hwhole hfraction hexponent hrest
  simp only [List.mem_cons, List.not_mem_nil, or_false] at hsign
  rcases hsign with rfl | rfl
  · obtain ⟨c, digits, rfl, hc⟩ := hwhole.1.exists_cons
    simp only [List.nil_append, List.append_assoc, List.cons_append] at hskip ⊢
    rw [skipValue_of_isDigit hc, hskip]
  · simp only [List.append_assoc, List.cons_append]
    rw [skipValue, dropBlanks_cons (by decide)]
    exact hskip

theorem skipItems_comma {fuel : Nat} {cs rest : List Char} (h : skipValue fuel cs = .ok rest) :
    skipItems (fuel + 1) false (',' :: cs) = skipItems fuel false rest := by
  rw [skipItems, dropBlanks_cons (by decide)]
  split
  · rename_i hnil
    cases hnil
  · rename_i hcons
    exact absurd (List.cons_eq_cons.1 hcons).1 (by decide)
  · rename_i hcons
    obtain ⟨rfl, rfl⟩ := List.cons_eq_cons.1 hcons
    rw [if_neg (by decide), if_pos rfl, h]

theorem skipItems_cons {item : Spaced} (hvalue : IsValue item.text) (hskips : Skips item.text)
    {fuel : Nat} (hfuel : item.chars.length ≤ fuel) (first : Bool) {rest : List Char}
    (hrest : EndsNumber rest) :
    skipItems (fuel + 1) first ((if first then [] else [',']) ++ (item.chars ++ rest)) =
      skipItems fuel false rest := by
  have hskip := hskips.append hfuel hrest
  cases first with
  | false =>
    rw [if_neg (by decide), List.singleton_append, skipItems_comma hskip]
    exact item.isBlank_after.skipItems_append _ _ _
  | true =>
    obtain ⟨c, cs, heq, hblank, hend⟩ := hvalue.exists_cons
    rw [Spaced.chars, List.append_assoc, item.isBlank_before.skipValue_append, heq,
      List.append_assoc, List.cons_append] at hskip
    rw [if_pos rfl, List.nil_append, Spaced.chars, List.append_assoc, skipItems,
      item.isBlank_before.dropBlanks_append, heq, List.append_assoc, List.cons_append,
      dropBlanks_cons hblank]
    split
    · rename_i hnil
      cases hnil
    · rename_i hcons
      exact absurd (List.cons_eq_cons.1 hcons).1 hend
    · rename_i hcons
      rw [← hcons, if_pos rfl, hskip]
      exact item.isBlank_after.skipItems_append _ _ _

theorem skipItems_listed {items : List Spaced} (hvalues : ∀ item ∈ items, IsValue item.text)
    (hskips : ∀ item ∈ items, Skips item.text) {fuel : Nat}
    (hfuel : (listed true (items.map Spaced.chars)).length < fuel) (rest : List Char) :
    skipItems fuel true (listed true (items.map Spaced.chars) ++ ']' :: rest) = .ok rest := by
  refine skips_listed (fun _ _ ↦ rfl) (fun part hpart ↦ ?_)
    (endsNumber_cons (by decide) (by decide) (by decide) (by decide)) hfuel
  obtain ⟨item, hitem, rfl⟩ := List.mem_map.1 hpart
  have hvalue := hvalues item hitem
  refine ⟨?_, fun fuel first rest hfuel ↦ skipItems_cons hvalue (hskips item hitem) hfuel first⟩
  obtain ⟨c, cs, heq, -⟩ := hvalue.exists_cons
  simp [Spaced.chars, heq]

theorem skipMembers_quote {fuel : Nat} {first : Bool} {blanks cs rest value rest' : List Char}
    (hblanks : IsBlank blanks) (hkey : skipString fuel cs = .ok rest)
    (hcolon : readColon rest = .ok value) (hvalue : skipValue fuel value = .ok rest') :
    skipMembers (fuel + 1) first ((if first then [] else [',']) ++ (blanks ++ '"' :: cs)) =
      skipMembers fuel false rest' := by
  have hdrop : dropBlanks (blanks ++ '"' :: cs) = '"' :: cs := by
    rw [hblanks.dropBlanks_append, dropBlanks_cons (by decide)]
  have hstart : dropBlanks ((if first then [] else [',']) ++ (blanks ++ '"' :: cs)) =
      (if first then '"' else ',') :: if first then cs else blanks ++ '"' :: cs := by
    cases first with
    | true => exact hdrop
    | false => exact dropBlanks_cons (by decide) _
  rw [skipMembers, hstart]
  split
  · rename_i hnil
    cases hnil
  · rename_i hcons
    exact absurd (List.cons_eq_cons.1 hcons).1 (by cases first <;> decide)
  · rename_i hcons
    obtain ⟨rfl, rfl⟩ := List.cons_eq_cons.1 hcons
    have hbehind : dropBlanks (if first = true then
        (if first then '"' else ',') :: (if first then cs else blanks ++ '"' :: cs)
        else (if first then cs else blanks ++ '"' :: cs)) = '"' :: cs := by
      cases first with
      | true => exact dropBlanks_cons (by decide) _
      | false => exact hdrop
    rw [if_neg (by cases first <;> decide), hbehind]
    split
    · rename_i hnil
      cases hnil
    · rename_i hquote
      obtain ⟨-, rfl⟩ := List.cons_eq_cons.1 hquote
      rw [hkey]
      dsimp only
      rw [hcolon]
      dsimp only
      rw [hvalue]
    · rename_i hquote
      exact absurd rfl (hquote cs)

/-- The value of a member is passed over behind its key. -/
theorem Skips.member {m : Member} (h : Skips m.value.text) {fuel : Nat}
    (hfuel : m.value.chars.length ≤ fuel) {rest : List Char} (hrest : EndsNumber rest) :
    skipMember fuel (m.key.after ++ ':' :: (m.value.chars ++ rest)) =
      .ok (m.value.after ++ rest) := by
  rw [skipMember, m.key.isBlank_after.readColon_append]
  exact h.append hfuel hrest

/-- The text of a member from its key on, with what follows. -/
theorem Member.chars_append {m : Member} {body : List Char} (hkey : m.key.text = inQuotes body)
    (rest : List Char) :
    m.chars ++ rest = m.key.before ++
      '"' :: (body ++ '"' :: (m.key.after ++ ':' :: (m.value.chars ++ rest))) := by
  simp [Member.chars, Spaced.chars, hkey, inQuotes]

theorem skipMembers_cons {m : Member} {body : List Char} (hbody : IsBody body)
    (hkey : m.key.text = inQuotes body) (hskips : Skips m.value.text) {fuel : Nat}
    (hfuel : m.chars.length ≤ fuel) (first : Bool) {rest : List Char} (hrest : EndsNumber rest) :
    skipMembers (fuel + 1) first ((if first then [] else [',']) ++ (m.chars ++ rest)) =
      skipMembers fuel false rest := by
  have hlength := congrArg List.length (Member.chars_append hkey [])
  simp only [List.length_append, List.length_cons, List.append_nil] at hlength
  rw [Member.chars_append hkey, skipMembers_quote m.key.isBlank_before
    (skipString_of_isBody hbody (by omega) _) (m.key.isBlank_after.readColon_append _)
    (hskips.append (by omega) hrest), m.value.isBlank_after.skipMembers_append]

theorem skipMembers_listed {members : List Member}
    (hkeys : ∀ m ∈ members, ∃ body, IsBody body ∧ m.key.text = inQuotes body)
    (hskips : ∀ m ∈ members, Skips m.value.text) {fuel : Nat}
    (hfuel : (listed true (members.map Member.chars)).length < fuel) (rest : List Char) :
    skipMembers fuel true (listed true (members.map Member.chars) ++ '\x7d' :: rest) =
      .ok rest := by
  refine skips_listed (fun _ _ ↦ rfl) (fun part hpart ↦ ?_)
    (endsNumber_cons (by decide) (by decide) (by decide) (by decide)) hfuel
  obtain ⟨m, hm, rfl⟩ := List.mem_map.1 hpart
  obtain ⟨body, hbody, hkey⟩ := hkeys m hm
  exact ⟨by simp [Member.chars],
    fun fuel first rest hfuel ↦ skipMembers_cons hbody hkey (hskips m hm) hfuel first⟩

/-- Every value is passed over. -/
theorem IsValue.skips {text : List Char} (h : IsValue text) : Skips text := by
  have hsucc {text : List Char} (htext : IsValue text)
      (h : ∀ (fuel : Nat) (rest : List Char), text.length ≤ fuel + 1 → EndsNumber rest →
        skipValue (fuel + 1) (text ++ rest) = .ok rest) : Skips text := by
    intro fuel rest hfuel hrest
    obtain ⟨c, cs, rfl, -⟩ := htext.exists_cons
    obtain ⟨fuel, rfl⟩ := Nat.exists_eq_add_one.2 (Nat.lt_of_lt_of_le (Nat.succ_pos _) hfuel)
    exact h fuel rest hfuel hrest
  induction h with
  | word hcs =>
    refine hsucc (.word hcs) fun fuel rest _ _ ↦ ?_
    simp only [List.mem_cons, List.not_mem_nil, or_false] at hcs
    rcases hcs with rfl | rfl | rfl <;> rfl
  | number hcs => exact hsucc (.number hcs) fun fuel rest _ hrest ↦ hcs.skipValue_append hrest fuel
  | @string body hbody =>
    refine hsucc (.string hbody) fun fuel rest hfuel _ ↦ ?_
    simp only [inQuotes, List.length_cons, List.length_append, List.length_nil] at hfuel
    rw [inQuotes, List.cons_append, List.append_assoc, List.singleton_append, skipValue,
      dropBlanks_cons (by decide)]
    exact skipString_of_isBody hbody (by omega) rest
  | @array blanks items hblanks hitems ih =>
    refine hsucc (.array hblanks hitems) fun fuel rest hfuel _ ↦ ?_
    rw [arrayText, intercalate_eq_listed] at hfuel ⊢
    simp only [List.length_cons, List.length_append, List.length_nil] at hfuel
    rw [List.cons_append, List.append_assoc, List.append_assoc, List.singleton_append, skipValue,
      dropBlanks_cons (by decide)]
    show skipItems fuel true _ = _
    rw [hblanks.skipItems_append, skipItems_listed hitems ih (by omega)]
  | @object blanks members hblanks hkeys hvalues ih =>
    refine hsucc (.object hblanks hkeys hvalues) fun fuel rest hfuel _ ↦ ?_
    rw [objectText, intercalate_eq_listed] at hfuel ⊢
    simp only [List.length_cons, List.length_append, List.length_nil] at hfuel
    rw [List.cons_append, List.append_assoc, List.append_assoc, List.singleton_append, skipValue,
      dropBlanks_cons (by decide)]
    show skipMembers fuel true _ = _
    rw [hblanks.skipMembers_append, skipMembers_listed hkeys ih (by omega)]

end LiveFind.Json
