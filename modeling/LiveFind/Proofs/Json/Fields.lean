import LiveFind.Json.Record
import LiveFind.Proofs.Json.Skipping

/-!
# Reading records from their text

When a record is read from an object, and what it is. A field takes a value exactly if the value is
written as what the field asks for: as a string (`readStringField_eq_ok_iff`) or as a size
(`readSizeField_eq_ok_iff`). Every other value of the grammar, `null` among them, gives a fault.

What a record makes of a single member is a relation on its drafts, `gives`, which depends on what
the key denotes and on the text of the value alone (`Record.Decides`). An object is read exactly if
the relation leads from the empty draft through all its members in their order
(`Record.readText_eq_ok_iff`). So nothing else about the text matters: not its blanks, and not how
its keys are spelled.
-/

namespace LiveFind.Json

/-! ### Fields -/

section Blanks

variable {blanks : List Char}

theorem IsBlank.readStringField_append (h : IsBlank blanks) (fuel : Nat) (cs : List Char) :
    readStringField fuel (blanks ++ cs) = readStringField fuel cs := by
  rw [readStringField, readStringField, h.dropBlanks_append]

theorem IsBlank.readSizeField_append (h : IsBlank blanks) (fuel : Nat) (cs : List Char) :
    readSizeField fuel (blanks ++ cs) = readSizeField fuel cs := by
  rw [readSizeField, readSizeField, h.dropBlanks_append]

theorem IsBlank.nextKey_append (h : IsBlank blanks) (first : Bool) (cs : List Char) :
    nextKey first (blanks ++ cs) = nextKey first cs := by
  rw [nextKey, nextKey, h.dropBlanks_append]

end Blanks

/-- A value is a string, a number, or it starts with what none of the two starts with. -/
theorem IsValue.kinds {text : List Char} (h : IsValue text) :
    (∃ body, IsBody body ∧ text = inQuotes body) ∨ IsNumber text ∨
      ∃ c cs, text = c :: cs ∧ c ∉ [' ', '\n', '\t', '\r'] ∧ c ≠ '"' ∧ c ≠ '-' ∧
        c.isDigit = false := by
  cases h with
  | word hcs =>
    simp only [List.mem_cons, List.not_mem_nil, or_false] at hcs
    rcases hcs with rfl | rfl | rfl <;>
      exact .inr (.inr ⟨_, _, rfl, by decide, by decide, by decide, rfl⟩)
  | number hcs => exact .inr (.inl hcs)
  | string hbody => exact .inl ⟨_, hbody, rfl⟩
  | array => exact .inr (.inr ⟨_, _, rfl, by decide, by decide, by decide, rfl⟩)
  | object => exact .inr (.inr ⟨_, _, rfl, by decide, by decide, by decide, rfl⟩)

theorem readStringField_of_ne {c : Char} (hblank : c ∉ [' ', '\n', '\t', '\r']) (hquote : c ≠ '"')
    (fuel : Nat) (cs : List Char) :
    readStringField fuel (c :: cs) = .error (wrongType fuel stringName (c :: cs)) := by
  rw [readStringField, dropBlanks_cons hblank]
  split
  · rename_i hcons
    exact absurd (List.cons_eq_cons.1 hcons).1 hquote
  · rfl

/-- A value is read as a string exactly if it spells the string. -/
theorem readStringField_eq_ok_iff {text : List Char} (htext : IsValue text) {fuel : Nat}
    (hfuel : text.length ≤ fuel) {rest rest' : List Char} {s : String} :
    readStringField fuel (text ++ rest) = .ok (s, rest') ↔ IsString s text ∧ rest' = rest := by
  have hother {c : Char} {cs : List Char} (hblank : c ∉ [' ', '\n', '\t', '\r'])
      (hquote : c ≠ '"') : readStringField fuel (c :: cs ++ rest) = .ok (s, rest') ↔
        IsString s (c :: cs) ∧ rest' = rest := by
    rw [List.cons_append, readStringField_of_ne hblank hquote]
    simp [IsString, inQuotes, hquote]
  rcases htext.kinds with ⟨body, hbody, rfl⟩ | hnumber | ⟨c, cs, rfl, hblank, hquote, -⟩
  · have hread : readStringField fuel (inQuotes body ++ rest) =
        readString fuel (body ++ '"' :: rest) := by
      rw [inQuotes, List.cons_append, List.append_assoc, List.singleton_append, readStringField,
        dropBlanks_cons (by decide)]
      rfl
    simp only [inQuotes, List.length_cons, List.length_append, List.length_nil] at hfuel
    rw [hread, readString_eq_ok_iff hbody (by omega)]
    refine and_congr_left' ⟨fun h ↦ ⟨body, h, rfl⟩, ?_⟩
    rintro ⟨body', hbody', heq⟩
    obtain ⟨rfl, -⟩ := hbody.eq_of_append hbody'.isBody (List.cons_eq_cons.1 heq).2
    exact hbody'
  · obtain ⟨c, cs, rfl, hc⟩ := hnumber.exists_cons
    rcases hc with rfl | hdigit
    · exact hother (by decide) (by decide)
    · exact hother (not_mem_blanks_of_isDigit hdigit) (ne_of_isDigit hdigit rfl)
  · exact hother hblank hquote

theorem readSizeField_cons {c : Char} (hblank : c ∉ [' ', '\n', '\t', '\r']) (fuel : Nat)
    (cs : List Char) :
    readSizeField fuel (c :: cs) = if c = '-' || c.isDigit then
        readNumber (c :: cs) >>= fun r ↦ (sizeOfNumber r.1).map (·, r.2)
      else .error (wrongType fuel sizeName (c :: cs)) := by
  rw [readSizeField, dropBlanks_cons hblank]
  dsimp only
  split
  · cases readNumber (c :: cs) with
    | error fault => rfl
    | ok r =>
      simp only [bind, Except.bind]
      cases sizeOfNumber r.1 <;> rfl
  · rfl

/-- A value is read as a size exactly if it is written as one. -/
theorem readSizeField_eq_ok_iff {text : List Char} (htext : IsValue text) {rest rest' : List Char}
    (hrest : EndsNumber rest) {fuel n : Nat} :
    readSizeField fuel (text ++ rest) = .ok (n, rest') ↔ IsSize n text ∧ rest' = rest := by
  have hother {c : Char} {cs : List Char} (hblank : c ∉ [' ', '\n', '\t', '\r']) (hminus : c ≠ '-')
      (hdigit : c.isDigit = false) : readSizeField fuel (c :: cs ++ rest) = .ok (n, rest') ↔
        IsSize n (c :: cs) ∧ rest' = rest := by
    rw [List.cons_append, readSizeField_cons hblank, if_neg (by simp [hminus, hdigit])]
    simp only [reduceCtorEq, false_iff, not_and]
    intro hsize
    rw [hsize.isDigit List.mem_cons_self] at hdigit
    cases hdigit
  rcases htext.kinds with ⟨body, -, rfl⟩ | hnumber | ⟨c, cs, rfl, hblank, -, hminus, hdigit⟩
  · exact hother (by decide) (by decide) rfl
  · have hread : readSizeField fuel (text ++ rest) =
        readNumber (text ++ rest) >>= fun r ↦ (sizeOfNumber r.1).map (·, r.2) := by
      obtain ⟨c, cs, rfl, hc⟩ := hnumber.exists_cons
      rcases hc with rfl | hdigit
      · rw [List.cons_append, readSizeField_cons (by decide), if_pos (by decide)]
      · rw [List.cons_append, readSizeField_cons (not_mem_blanks_of_isDigit hdigit),
          if_pos (by rw [hdigit, Bool.or_true])]
    rw [hread, ← readNumber_eq_int_iff hnumber hrest, bind_eq_ok_iff]
    constructor
    · rintro ⟨⟨x, rest₁⟩, hx, hsize⟩
      obtain ⟨_, hvalue, heq⟩ := map_eq_ok_iff.1 hsize
      cases heq
      rwa [← sizeOfNumber_eq_ok_iff.1 hvalue]
    · exact fun h ↦ ⟨_, h, map_eq_ok_iff.2 ⟨n, sizeOfNumber_eq_ok_iff.2 rfl, rfl⟩⟩
  · exact hother hblank hminus hdigit

theorem Spaced.readStringField_eq_ok_iff {v : Spaced} (hv : IsValue v.text) {fuel : Nat}
    (hfuel : v.chars.length ≤ fuel) {rest rest' : List Char} {s : String} :
    readStringField fuel (v.chars ++ rest) = .ok (s, rest') ↔
      IsString s v.text ∧ rest' = v.after ++ rest := by
  simp only [chars, List.length_append] at hfuel
  rw [chars, List.append_assoc, List.append_assoc, v.isBlank_before.readStringField_append,
    Json.readStringField_eq_ok_iff hv (by omega)]

theorem Spaced.readSizeField_eq_ok_iff {v : Spaced} (hv : IsValue v.text) {rest rest' : List Char}
    (hrest : EndsNumber rest) {fuel n : Nat} :
    readSizeField fuel (v.chars ++ rest) = .ok (n, rest') ↔
      IsSize n v.text ∧ rest' = v.after ++ rest := by
  rw [chars, List.append_assoc, List.append_assoc, v.isBlank_before.readSizeField_append,
    Json.readSizeField_eq_ok_iff hv (v.isBlank_after.endsNumber_append hrest)]

/-! ### Records -/

section Record

variable {σ α : Type}

/-- A field is filled exactly if it was empty and the value is what it asks for. -/
theorem fillField_eq_ok_iff {β : Type} {asked : β → List Char → Prop} {name : String}
    {current : Option β} {set : β → σ} {read : List Char → Except Fault (β × List Char)}
    {m : Member} {rest rest' : List Char} {next : σ}
    (hread : ∀ b rest', read (m.value.chars ++ rest) = .ok (b, rest') ↔
      asked b m.value.text ∧ rest' = m.value.after ++ rest) :
    fillField name current set read (m.key.after ++ ':' :: (m.value.chars ++ rest)) =
        .ok (next, rest') ↔
      (current = none ∧ ∃ b, asked b m.value.text ∧ next = set b) ∧
        rest' = m.value.after ++ rest := by
  rw [fillField, m.key.isBlank_after.readColon_append]
  cases current with
  | some _ => simp
  | none =>
    simp only [Option.isSome_none, Bool.false_eq_true, if_false, true_and]
    show (read (m.value.chars ++ rest) >>= fun r ↦ .ok (set r.1, r.2)) = _ ↔ _
    rw [bind_eq_ok_iff]
    constructor
    · rintro ⟨⟨b, rest₁⟩, hb, heq⟩
      obtain ⟨hasked, rfl⟩ := (hread b rest₁).1 hb
      cases heq
      exact ⟨⟨b, hasked, rfl⟩, rfl⟩
    · rintro ⟨⟨b, hasked, rfl⟩, rfl⟩
      exact ⟨_, (hread b _).2 ⟨hasked, rfl⟩, rfl⟩

variable {gives : σ → String → List Char → σ → Prop}

/-- What becomes of a draft when the record takes a member. It depends only on what the key denotes
and on the text of the value. -/
def Record.Decides (r : Record σ α) (gives : σ → String → List Char → σ → Prop) : Prop :=
  ∀ (fuel : Nat) (draft next : σ) (key : String) (m : Member) (rest rest' : List Char),
    IsValue m.value.text → m.value.chars.length ≤ fuel → EndsNumber rest →
      (r.member fuel draft key (m.key.after ++ ':' :: (m.value.chars ++ rest)) =
          .ok (next, rest') ↔
        gives draft key m.value.text next ∧ rest' = m.value.after ++ rest)

/-- The members lead from one draft to another. -/
def Leads (gives : σ → String → List Char → σ → Prop) (draft : σ) :
    List (String × Member) → σ → Prop
  | [], last => draft = last
  | (key, m) :: members, last =>
    ∃ next, gives draft key m.value.text next ∧ Leads gives next members last

theorem nextKey_comma (cs : List Char) :
    nextKey false (',' :: cs) =
      match dropBlanks cs with
      | [] => .error .endInValue
      | '"' :: rest => .ok (true, rest)
      | '\x7d' :: _ => .error .trailingComma
      | _ => .error .keyNotString := rfl

theorem nextKey_quote (first : Bool) {blanks : List Char} (hblanks : IsBlank blanks)
    (cs : List Char) :
    nextKey first ((if first then [] else [',']) ++ (blanks ++ '"' :: cs)) = .ok (true, cs) := by
  have hdrop : dropBlanks (blanks ++ '"' :: cs) = '"' :: cs := by
    rw [hblanks.dropBlanks_append, dropBlanks_cons (by decide)]
  cases first with
  | true =>
    rw [if_pos rfl, List.nil_append, nextKey, hdrop]
    rfl
  | false =>
    rw [if_neg (by decide), List.singleton_append, nextKey_comma, hdrop]
    rfl

theorem IsBlank.readMembers_append {blanks : List Char} (h : IsBlank blanks) (r : Record σ α)
    (fuel : Nat) (first : Bool) (draft : σ) (cs : List Char) :
    r.readMembers fuel first draft (blanks ++ cs) = r.readMembers fuel first draft cs := by
  cases fuel with
  | zero => rfl
  | succ fuel => rw [Record.readMembers, Record.readMembers, h.nextKey_append]

variable {r : Record σ α}

/-- One member, with the comma in front of it, and those behind it. -/
theorem Record.Decides.readMembers_cons (hr : r.Decides gives) {key : String} {m : Member}
    (hkey : IsString key m.key.text) (hvalue : IsValue m.value.text) {fuel : Nat}
    (hfuel : m.chars.length ≤ fuel) (first : Bool) {rest : List Char} (hrest : EndsNumber rest)
    {draft : σ} {x : σ × List Char} :
    r.readMembers (fuel + 1) first draft ((if first then [] else [',']) ++ (m.chars ++ rest)) =
        .ok x ↔
      ∃ next, gives draft key m.value.text next ∧ r.readMembers fuel false next rest = .ok x := by
  obtain ⟨body, hbody, hkey⟩ := hkey
  have hlength := congrArg List.length (Member.chars_append hkey [])
  simp only [List.length_append, List.length_cons, List.append_nil] at hlength
  have hdecides (next : σ) (rest' : List Char) :=
    hr fuel draft next key m rest rest' hvalue (by omega) hrest
  rw [Member.chars_append hkey, readMembers, nextKey_quote first m.key.isBlank_before]
  dsimp only
  rw [readString_of_spells hbody (by omega)]
  dsimp only
  split
  · rename_i hmember
    simp only [reduceCtorEq, false_iff, not_exists, not_and]
    intro next hgives
    rw [(hdecides next _).2 ⟨hgives, rfl⟩] at hmember
    cases hmember
  · rename_i next rest' hmember
    obtain ⟨hgives, rfl⟩ := (hdecides next rest').1 hmember
    rw [m.value.isBlank_after.readMembers_append]
    refine ⟨fun h ↦ ⟨next, hgives, h⟩, ?_⟩
    rintro ⟨next', hgives', h⟩
    rw [(hdecides next' _).2 ⟨hgives', rfl⟩, Except.ok.injEq, Prod.mk.injEq] at hmember
    rwa [hmember.1] at h

theorem Record.Decides.readMembers_listed (hr : r.Decides gives) {members : List (String × Member)}
    (hmembers : ∀ m ∈ members, IsString m.1 m.2.key.text ∧ IsValue m.2.value.text) (fuel : Nat)
    (first : Bool) (hfuel : (listed first (members.map (·.2.chars))).length < fuel) {draft last : σ}
    {rest rest' : List Char} :
    r.readMembers fuel first draft (listed first (members.map (·.2.chars)) ++ '\x7d' :: rest) =
        .ok (last, rest') ↔
      Leads gives draft members last ∧ rest' = rest := by
  obtain ⟨fuel, rfl⟩ := Nat.exists_eq_add_one.2 (Nat.zero_lt_of_lt hfuel)
  induction members generalizing fuel first draft with
  | nil =>
    have hend : r.readMembers (fuel + 1) first draft ('\x7d' :: rest) = .ok (draft, rest) := rfl
    rw [List.map_nil, listed, List.nil_append, hend, Leads, Except.ok.injEq, Prod.mk.injEq]
    exact and_congr_right' eq_comm
  | cons m members ih =>
    obtain ⟨key, m⟩ := m
    obtain ⟨⟨hkey, hvalue⟩, hmembers⟩ := List.forall_mem_cons.1 hmembers
    have hsum := length_listed_cons first m.chars (members.map (·.2.chars))
    have hpos : 0 < m.chars.length := by
      simp only [Member.chars, List.length_append, List.length_cons]
      omega
    simp only [List.map_cons] at hfuel ⊢
    obtain ⟨fuel, rfl⟩ := Nat.exists_eq_add_one.2 (show 0 < fuel by omega)
    rw [listed, List.append_assoc, List.append_assoc,
      hr.readMembers_cons hkey hvalue (show m.chars.length ≤ fuel + 1 by omega) first
        (endsNumber_listed _ (endsNumber_cons (by decide) (by decide) (by decide) (by decide)))]
    simp only [Leads]
    rw [← exists_and_right]
    refine exists_congr fun next ↦ ?_
    rw [ih hmembers false fuel (by omega), and_assoc]

theorem atEnd_blank {α : Type} (a : α) {blanks : List Char} (h : IsBlank blanks) :
    atEnd (a, blanks) = .ok a := by
  have hdrop := h.dropBlanks_append []
  rw [List.append_nil] at hdrop
  rw [atEnd, hdrop]
  rfl

/-- A record is read from an object exactly if the members lead from the empty draft to one that
makes the record. -/
theorem Record.Decides.readText_eq_ok_iff (hr : r.Decides gives) {members : List (String × Member)}
    {text : List Char} (h : IsObject members text) {a : α} :
    r.readText text = .ok a ↔
      ∃ last, Leads gives r.empty members last ∧ r.finish last = .ok a := by
  obtain ⟨hmembers, s, blanks, rfl, hblanks, hs⟩ := h
  have htext : s.chars = s.before ++ '\x7b' :: (blanks ++
      (listed true (members.map (·.2.chars)) ++ '\x7d' :: s.after)) := by
    rw [Spaced.chars, hs, objectText, intercalate_eq_listed, List.map_map]
    simp [Function.comp_def]
  have hlength := congrArg List.length htext
  simp only [List.length_append, List.length_cons] at hlength
  have hread (last : σ) (rest' : List Char) : r.readMembers (s.chars.length + 1) true r.empty
      (listed true (members.map (·.2.chars)) ++ '\x7d' :: s.after) = .ok (last, rest') ↔
        Leads gives r.empty members last ∧ rest' = s.after :=
    hr.readMembers_listed hmembers _ true (by omega)
  have hopen : dropBlanks s.chars = '\x7b' :: (blanks ++
      (listed true (members.map (·.2.chars)) ++ '\x7d' :: s.after)) := by
    rw [htext, s.isBlank_before.dropBlanks_append, dropBlanks_cons (by decide)]
  have hobject : r.read (s.chars.length + 1) s.chars =
      (r.readMembers (s.chars.length + 1) true r.empty
        (listed true (members.map (·.2.chars)) ++ '\x7d' :: s.after) >>= fun d ↦
          r.finish d.1 >>= fun a ↦ .ok (a, d.2)) := by
    rw [read, hopen, ← hblanks.readMembers_append r]
    rfl
  rw [readText, hobject, bind_eq_ok_iff]
  constructor
  · rintro ⟨x, hx, hend⟩
    obtain ⟨⟨last, rest'⟩, hlast, hx⟩ := bind_eq_ok_iff.1 hx
    obtain ⟨hleads, rfl⟩ := (hread last rest').1 hlast
    obtain ⟨b, hfinish, heq⟩ := bind_eq_ok_iff.1 hx
    cases heq
    rw [atEnd_blank b s.isBlank_after] at hend
    exact ⟨last, hleads, hend ▸ hfinish⟩
  · rintro ⟨last, hleads, hfinish⟩
    exact ⟨(a, s.after), bind_eq_ok_iff.2 ⟨_, (hread last s.after).2 ⟨hleads, rfl⟩,
      bind_eq_ok_iff.2 ⟨a, hfinish, rfl⟩⟩, atEnd_blank a s.isBlank_after⟩

end Record

end LiveFind.Json
