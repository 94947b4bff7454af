import Mathlib.Data.List.Basic
import LiveFind.Pattern
import LiveFind.Proofs.Pattern.Described

/-!
# The pattern for identifiers

What the default pattern describes, read off its expression one part at a time. Most of its parts
say nothing of what stands around a run, so their repetitions are lists of runs joined together
(`Description.repeated_iff_flatMap`). The two conditions at its ends leave no other run than the
whole text.

The result is `occursIn_default_iff`: the pattern occurs in a text if and only if the text is an
optional `#` or `node:` and then groups of decimal digits with a colon between each two.
-/

namespace LiveFind.Pattern

/-- One or more decimal digits, which are the characters of category `Nd` in the Unicode version of
patterns. -/
def IsDigits (cs : List Char) : Prop :=
  cs ≠ [] ∧ ∀ c ∈ cs, CharClass.digit.mem c = true

/-- One or more groups of decimal digits, with a colon between each two. -/
def IsGrouped (cs : List Char) : Prop :=
  ∃ groups : List (List Char),
    groups ≠ [] ∧ (∀ group ∈ groups, IsDigits group) ∧ cs = [':'].intercalate groups

theorem intercalate_cons_eq_flatMap {β : Type} (sep part : List β) (parts : List (List β)) :
    sep.intercalate (part :: parts) = part ++ parts.flatMap (sep ++ ·) := by
  induction parts generalizing part with
  | nil => simp
  | cons part' parts ih =>
    rw [List.intercalate_cons_cons, ih, List.flatMap_cons, List.append_assoc, List.append_assoc]

/-- A first group, and then a colon before each further one. -/
theorem isGrouped_iff {cs : List Char} : IsGrouped cs ↔
    ∃ (group : List Char) (groups : List (List Char)),
      IsDigits group ∧ (∀ group ∈ groups, IsDigits group) ∧
        cs = group ++ groups.flatMap ([':'] ++ ·) := by
  constructor
  · rintro ⟨groups, hne, hall, rfl⟩
    obtain ⟨group, groups, rfl⟩ := List.exists_cons_of_ne_nil hne
    obtain ⟨hgroup, hgroups⟩ := List.forall_mem_cons.1 hall
    exact ⟨group, groups, hgroup, hgroups, intercalate_cons_eq_flatMap _ _ _⟩
  · rintro ⟨group, groups, hgroup, hgroups, rfl⟩
    exact ⟨group :: groups, List.cons_ne_nil _ _, List.forall_mem_cons.2 ⟨hgroup, hgroups⟩,
      (intercalate_cons_eq_flatMap _ _ _).symm⟩

variable {before run after : List Char}

/-! ### Descriptions of runs alone -/

/-- Where a description says nothing of what stands around a run, several runs in a row are any such
runs joined together. -/
theorem Description.repeated_iff_flatMap {β : Type} {A : Description} {P : β → Prop}
    {f : β → List Char} (hA : ∀ before run after, A before run after ↔ ∃ b, P b ∧ run = f b)
    (n : Nat) :
    A.repeated n before run after ↔
      ∃ bs : List β, bs.length = n ∧ (∀ b ∈ bs, P b) ∧ run = bs.flatMap f := by
  induction n generalizing before run with
  | zero =>
    constructor
    · rintro rfl
      exact ⟨[], rfl, List.forall_mem_nil P, rfl⟩
    · rintro ⟨bs, hlength, -, rfl⟩
      rw [List.length_eq_zero_iff.1 hlength]
      rfl
  | succ n ih =>
    constructor
    · rintro ⟨s, t, rfl, hs, ht⟩
      obtain ⟨b, hb, rfl⟩ := (hA _ _ _).1 hs
      obtain ⟨bs, hlength, hbs, rfl⟩ := ih.1 ht
      exact ⟨b :: bs, congrArg (· + 1) hlength, List.forall_mem_cons.2 ⟨hb, hbs⟩, rfl⟩
    · rintro ⟨bs, hlength, hbs, rfl⟩
      obtain ⟨b, bs, rfl⟩ := List.exists_cons_of_length_eq_add_one hlength
      obtain ⟨hb, hbs⟩ := List.forall_mem_cons.1 hbs
      exact ⟨f b, bs.flatMap f, rfl, (hA _ _ _).2 ⟨b, hb, rfl⟩,
        ih.2 ⟨bs, Nat.succ.inj hlength, hbs, rfl⟩⟩

theorem describes_times_none {β : Type} {e : Expr} {P : β → Prop} {f : β → List Char}
    (he : ∀ before run after, e.Describes before run after ↔ ∃ b, P b ∧ run = f b)
    (least : Nat) :
    (Expr.times least none e).Describes before run after ↔
      ∃ bs : List β, least ≤ bs.length ∧ (∀ b ∈ bs, P b) ∧ run = bs.flatMap f := by
  simp only [Expr.Describes, Description.repeated_iff_flatMap he]
  constructor
  · rintro ⟨extra, -, bs, hlength, hbs, hrun⟩
    exact ⟨bs, by omega, hbs, hrun⟩
  · rintro ⟨bs, hle, hbs, hrun⟩
    exact ⟨bs.length - least, by simp, bs, by omega, hbs, hrun⟩

theorem describes_only (c : Char) : (Expr.only c).Describes before run after ↔ run = [c] := by
  rw [Expr.only, Expr.Describes]
  simp [CharSet.mem_single]

theorem describes_seqAll_cons (e : Expr) (es : List Expr) :
    (seqAll (e :: es)).Describes before run after ↔
      e.Describes.followedBy (seqAll es).Describes before run after := by
  cases es with
  | nil =>
    constructor
    · intro h
      exact ⟨run, [], (List.append_nil run).symm, h, rfl⟩
    · rintro ⟨s, t, rfl, hs, rfl⟩
      rwa [List.append_nil]
  | cons e' es => rfl

theorem describes_seqAll_only (cs : List Char) :
    (seqAll (cs.map Expr.only)).Describes before run after ↔ run = cs := by
  induction cs generalizing before run with
  | nil => rfl
  | cons c cs ih =>
    rw [List.map_cons, describes_seqAll_cons]
    simp [Description.followedBy, describes_only, ih]

theorem describes_optional (e : Expr) :
    (Expr.times 0 (some 1) e).Describes before run after ↔
      run = [] ∨ e.Describes before run after := by
  have honce : e.Describes.repeated 1 before run after ↔ e.Describes before run after := by
    simp [Description.repeated, Description.followedBy]
  rw [← honce, Expr.Describes]
  constructor
  · rintro ⟨extra, hextra, h⟩
    rw [Nat.zero_add] at h
    have hle : extra ≤ 1 := hextra 1 rfl
    obtain rfl | rfl : extra = 0 ∨ extra = 1 := by omega
    · exact .inl h
    · exact .inr h
  · rintro (h | h)
    · exact ⟨0, fun n _ ↦ Nat.zero_le _, h⟩
    · exact ⟨1, by simp, h⟩

/-! ### The parts of the pattern -/

theorem describes_digits : Expr.digits.Describes before run after ↔ IsDigits run := by
  have hdigit : ∀ before run after, (Expr.char (.named .digit)).Describes before run after ↔
      ∃ c, CharClass.digit.mem c = true ∧ run = [c] :=
    fun _ _ _ ↦ exists_congr fun _ ↦ and_comm
  rw [Expr.digits, describes_times_none hdigit]
  simp only [List.flatMap_singleton']
  constructor
  · rintro ⟨cs, hpos, hcs, rfl⟩
    exact ⟨List.length_pos_iff.1 hpos, hcs⟩
  · rintro ⟨hne, hcs⟩
    exact ⟨run, List.length_pos_iff.2 hne, hcs, rfl⟩

theorem describes_groups :
    (Expr.times 0 none (.seq (.only ':') .digits)).Describes before run after ↔
      ∃ groups : List (List Char),
        (∀ group ∈ groups, IsDigits group) ∧ run = groups.flatMap ([':'] ++ ·) := by
  have hgroup : ∀ before run after,
      (Expr.seq (.only ':') .digits).Describes before run after ↔
        ∃ group, IsDigits group ∧ run = [':'] ++ group := by
    intro before run after
    simp only [Expr.Describes, Description.followedBy, describes_only, describes_digits]
    constructor
    · rintro ⟨s, group, rfl, rfl, hgroup⟩
      exact ⟨group, hgroup, rfl⟩
    · rintro ⟨group, hgroup, rfl⟩
      exact ⟨[':'], group, rfl, rfl, hgroup⟩
  rw [describes_times_none hgroup]
  simp only [Nat.zero_le, true_and]

/-- What stands before the groups of the default pattern. -/
theorem describes_lead :
    (Expr.times 0 (some 1) (.alt (seqAll (['n', 'o', 'd', 'e', ':'].map .only))
      (.only '#'))).Describes before run after ↔
      run = [] ∨ run = ['n', 'o', 'd', 'e', ':'] ∨ run = ['#'] := by
  rw [describes_optional]
  exact or_congr_right (or_congr (describes_seqAll_only _) (describes_only _))

theorem describes_textStart :
    (Expr.place .textStart).Describes before run after ↔ run = [] ∧ before = [] := by
  simp [Expr.Describes, Place.holds]

theorem describes_textEnd :
    (Expr.place .textEnd).Describes before run after ↔ run = [] ∧ after = [] := by
  simp [Expr.Describes, Place.holds]

/-- The conditions at its ends leave the default pattern no other run than the whole text. -/
theorem describes_default : defaultExpr.Describes before run after ↔
    before = [] ∧ after = [] ∧ ∃ lead rest, run = lead ++ rest ∧
      (lead = [] ∨ lead = ['n', 'o', 'd', 'e', ':'] ∨ lead = ['#']) ∧ IsGrouped rest := by
  rw [defaultExpr]
  simp only [describes_seqAll_cons, Description.followedBy, describes_textStart, describes_lead,
    describes_digits, describes_groups, describes_textEnd, isGrouped_iff]
  constructor
  · rintro ⟨_, _, rfl, ⟨rfl, rfl⟩, lead, _, rfl, hlead, group, _, rfl, hgroup, _, _, rfl,
      ⟨groups, hgroups, rfl⟩, _, _, rfl, ⟨rfl, hafter⟩, rfl⟩
    exact ⟨rfl, hafter, lead, group ++ groups.flatMap ([':'] ++ ·), by simp, hlead, group, groups,
      hgroup, hgroups, rfl⟩
  · rintro ⟨rfl, rfl, lead, _, rfl, hlead, group, groups, hgroup, hgroups, rfl⟩
    exact ⟨[], _, rfl, ⟨rfl, rfl⟩, lead, _, rfl, hlead, group, _, rfl, hgroup, _, [],
      (List.append_nil _).symm, ⟨groups, hgroups, rfl⟩, [], [], rfl, ⟨rfl, rfl⟩, rfl⟩

/-- The default pattern occurs in a text if and only if the text is an optional `#` or `node:` and
then groups of decimal digits with a colon between each two. -/
theorem occursIn_default_iff (s : String) : default.occursIn s = true ↔
    ∃ lead rest, s.toList = lead ++ rest ∧
      (lead = [] ∨ lead = ['n', 'o', 'd', 'e', ':'] ∨ lead = ['#']) ∧ IsGrouped rest := by
  rw [occursIn, default, Expr.occursIn_iff]
  constructor
  · rintro ⟨before, run, after, htext, h⟩
    obtain ⟨rfl, rfl, lead, rest, rfl, hlead, hrest⟩ := describes_default.1 h
    exact ⟨lead, rest, by simpa using htext, hlead, hrest⟩
  · rintro ⟨lead, rest, htext, hlead, hrest⟩
    exact ⟨[], lead ++ rest, [], by simpa using htext,
      describes_default.2 ⟨rfl, rfl, lead, rest, rfl, hlead, hrest⟩⟩

end LiveFind.Pattern
