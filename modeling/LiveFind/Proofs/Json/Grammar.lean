import Mathlib.Data.List.Basic
import LiveFind.Text.HexDigit

/-!
# The grammar of JSON

Which texts are JSON, on lists of characters and without regard to how they are read.

* `Spells cs body` says that `body` stands between the quotes of a string that denotes `cs`. One
  text denotes one string, and many texts may denote the same. `IsBody` is what may stand there if
  surrogates need not be paired; such a text need not denote anything.
* `IsNumber` splits a number into its parts. `IsSize n` is a number that has neither sign nor
  fraction nor exponent, and whose digits are those of `n`, below `2 ^ 64`.
* `IsValue` is a value of any depth. What stands inside an array or an object has blanks around it,
  which `Spaced` keeps apart from the text itself.
* `IsObject` is a whole text that is an object. The keys come with what they denote, in the order of
  the text, and any of them may occur again.
-/

namespace LiveFind.Json

/-- Nothing but blanks. -/
def IsBlank (cs : List Char) : Prop :=
  ∀ c ∈ cs, c ∈ [' ', '\n', '\t', '\r']

instance (cs : List Char) : Decidable (IsBlank cs) :=
  List.decidableBAll (· ∈ [' ', '\n', '\t', '\r']) cs

/-! ### Strings -/

/-- The text of a string whose quotes enclose `body`. -/
def inQuotes (body : List Char) : List Char :=
  '"' :: (body ++ ['"'])

/-- A character that stands for itself inside a string. -/
def IsPlain (c : Char) : Prop :=
  c ≠ '"' ∧ c ≠ '\\' ∧ 0x20 ≤ c.toNat

instance (c : Char) : Decidable (IsPlain c) :=
  inferInstanceAs (Decidable (c ≠ '"' ∧ c ≠ '\\' ∧ 0x20 ≤ c.toNat))

/-- The letters that may stand behind a backslash, with what they denote there. -/
def shortEscapes : List (Char × Char) :=
  [('"', '"'), ('\\', '\\'), ('/', '/'), ('b', '\x08'), ('f', '\x0c'), ('n', '\n'), ('r', '\r'),
    ('t', '\t')]

/-- Four hexadecimal digits, and the number that they denote. -/
inductive IsCodeUnit : Nat → List Char → Prop
  | mk {a b c d : Char} {i j k l : Nat} (ha : Text.hexValue? a = some i)
    (hb : Text.hexValue? b = some j) (hc : Text.hexValue? c = some k)
    (hd : Text.hexValue? d = some l) : IsCodeUnit (((i * 16 + j) * 16 + k) * 16 + l) [a, b, c, d]

/-- A high surrogate. -/
def IsHigh (n : Nat) : Prop :=
  0xD800 ≤ n ∧ n ≤ 0xDBFF

instance (n : Nat) : Decidable (IsHigh n) :=
  inferInstanceAs (Decidable (0xD800 ≤ n ∧ n ≤ 0xDBFF))

/-- A low surrogate. -/
def IsLow (n : Nat) : Prop :=
  0xDC00 ≤ n ∧ n ≤ 0xDFFF

instance (n : Nat) : Decidable (IsLow n) :=
  inferInstanceAs (Decidable (0xDC00 ≤ n ∧ n ≤ 0xDFFF))

/-- The character that a high and a low surrogate denote together. -/
def joined (high low : Nat) : Char :=
  Char.ofNat ((high - 0xD800) * 0x400 + (low - 0xDC00) + 0x10000)

/-- The characters are spelled by the text between quotes. -/
inductive Spells : List Char → List Char → Prop
  | nil : Spells [] []
  | plain {c : Char} {cs body : List Char} (hc : IsPlain c) (h : Spells cs body) :
    Spells (c :: cs) (c :: body)
  | short {e c : Char} {cs body : List Char} (he : (e, c) ∈ shortEscapes) (h : Spells cs body) :
    Spells (c :: cs) ('\\' :: e :: body)
  | unit {n : Nat} {digits cs body : List Char} (hdigits : IsCodeUnit n digits) (hhigh : ¬IsHigh n)
    (hlow : ¬IsLow n) (h : Spells cs body) :
    Spells (Char.ofNat n :: cs) ('\\' :: 'u' :: (digits ++ body))
  | pair {high low : Nat} {digits digits' cs body : List Char} (hdigits : IsCodeUnit high digits)
    (hhigh : IsHigh high) (hdigits' : IsCodeUnit low digits') (hlow : IsLow low)
    (h : Spells cs body) :
    Spells (joined high low :: cs) ('\\' :: 'u' :: (digits ++ '\\' :: 'u' :: (digits' ++ body)))

/-- What may stand between quotes, whatever its surrogates. -/
inductive IsBody : List Char → Prop
  | nil : IsBody []
  | plain {c : Char} {body : List Char} (hc : IsPlain c) (h : IsBody body) : IsBody (c :: body)
  | short {e c : Char} {body : List Char} (he : (e, c) ∈ shortEscapes) (h : IsBody body) :
    IsBody ('\\' :: e :: body)
  | unit {n : Nat} {digits body : List Char} (hdigits : IsCodeUnit n digits) (h : IsBody body) :
    IsBody ('\\' :: 'u' :: (digits ++ body))

theorem Spells.isBody {cs body : List Char} (h : Spells cs body) : IsBody body := by
  induction h with
  | nil => exact .nil
  | plain hc _ ih => exact .plain hc ih
  | short he _ ih => exact .short he ih
  | unit hdigits _ _ _ ih => exact .unit hdigits ih
  | pair hdigits _ hdigits' _ _ ih => exact .unit hdigits (.unit hdigits' ih)

/-- The text of a string that denotes `s`. -/
def IsString (s : String) (text : List Char) : Prop :=
  ∃ body, Spells s.toList body ∧ text = inQuotes body

/-! ### Numbers -/

/-- At least one decimal digit. -/
def IsDigits (cs : List Char) : Prop :=
  cs ≠ [] ∧ ∀ c ∈ cs, c.isDigit = true

instance (cs : List Char) : Decidable (IsDigits cs) :=
  @instDecidableAnd _ _ inferInstance (List.decidableBAll (·.isDigit = true) cs)

/-- The digits before the point: no zero comes first, unless it is the only one. -/
def IsWhole (cs : List Char) : Prop :=
  IsDigits cs ∧ (cs.head? = some '0' → cs = ['0'])

instance (cs : List Char) : Decidable (IsWhole cs) :=
  inferInstanceAs (Decidable (IsDigits cs ∧ (cs.head? = some '0' → cs = ['0'])))

/-- The point with the places behind it, or nothing. -/
inductive IsFraction : List Char → Prop
  | none : IsFraction []
  | places {places : List Char} (hplaces : IsDigits places) : IsFraction ('.' :: places)

/-- The exponent with its letter, or nothing. -/
inductive IsExponent : List Char → Prop
  | none : IsExponent []
  | power {letter : Char} {sign digits : List Char} (hletter : letter = 'e' ∨ letter = 'E')
    (hsign : sign ∈ [[], ['+'], ['-']]) (hdigits : IsDigits digits) :
    IsExponent (letter :: (sign ++ digits))

/-- A number. -/
inductive IsNumber : List Char → Prop
  | mk {sign whole fraction exponent : List Char} (hsign : sign ∈ [[], ['-']])
    (hwhole : IsWhole whole) (hfraction : IsFraction fraction) (hexponent : IsExponent exponent) :
    IsNumber (sign ++ (whole ++ (fraction ++ exponent)))

/-- The text of a size. -/
def IsSize (n : Nat) (text : List Char) : Prop :=
  IsWhole text ∧ Nat.ofDigitChars 10 text 0 = n ∧ n < 0x10000000000000000

instance (n : Nat) (text : List Char) : Decidable (IsSize n text) :=
  inferInstanceAs (Decidable (IsWhole text ∧ Nat.ofDigitChars 10 text 0 = n ∧
    n < 0x10000000000000000))

/-! ### Values -/

/-- A text with blanks around it. -/
structure Spaced where
  before : List Char
  text : List Char
  after : List Char
  isBlank_before : IsBlank before
  isBlank_after : IsBlank after

/-- The text with its blanks. -/
def Spaced.chars (s : Spaced) : List Char :=
  s.before ++ (s.text ++ s.after)

/-- A text behind some blanks. -/
def Spaced.behind (blanks text : List Char) (h : IsBlank blanks) : Spaced where
  before := blanks
  text := text
  after := []
  isBlank_before := h
  isBlank_after := by decide

/-- A member of an object: the texts of its key and of its value. -/
structure Member where
  key : Spaced
  value : Spaced

/-- The text of a member. -/
def Member.chars (m : Member) : List Char :=
  m.key.chars ++ ':' :: m.value.chars

/-- The text of an array with these items, behind some blanks. -/
def arrayText (blanks : List Char) (items : List Spaced) : List Char :=
  '[' :: (blanks ++ ([','].intercalate (items.map Spaced.chars) ++ [']']))

/-- The text of an object with these members, behind some blanks. -/
def objectText (blanks : List Char) (members : List Member) : List Char :=
  '\x7b' :: (blanks ++ ([','].intercalate (members.map Member.chars) ++ ['\x7d']))

/-- The text of a value. -/
inductive IsValue : List Char → Prop
  | word {cs : List Char}
    (hcs : cs ∈ [['n', 'u', 'l', 'l'], ['t', 'r', 'u', 'e'], ['f', 'a', 'l', 's', 'e']]) :
    IsValue cs
  | number {cs : List Char} (hcs : IsNumber cs) : IsValue cs
  | string {body : List Char} (hbody : IsBody body) : IsValue (inQuotes body)
  | array {blanks : List Char} {items : List Spaced} (hblanks : IsBlank blanks)
    (hitems : ∀ item ∈ items, IsValue item.text) : IsValue (arrayText blanks items)
  | object {blanks : List Char} {members : List Member} (hblanks : IsBlank blanks)
    (hkeys : ∀ m ∈ members, ∃ body, IsBody body ∧ m.key.text = inQuotes body)
    (hvalues : ∀ m ∈ members, IsValue m.value.text) : IsValue (objectText blanks members)

theorem IsString.isValue {s : String} {text : List Char} (h : IsString s text) : IsValue text := by
  obtain ⟨body, hbody, rfl⟩ := h
  exact .string hbody.isBody

theorem IsWhole.isValue {cs : List Char} (h : IsWhole cs) : IsValue cs := by
  have hnumber := IsNumber.mk List.mem_cons_self h .none .none
  rw [List.nil_append, List.append_nil, List.append_nil] at hnumber
  exact .number hnumber

/-- A whole text that is an object with these members, each with what its key denotes. -/
def IsObject (members : List (String × Member)) (text : List Char) : Prop :=
  (∀ m ∈ members, IsString m.1 m.2.key.text ∧ IsValue m.2.value.text) ∧
    ∃ (s : Spaced) (blanks : List Char), text = s.chars ∧ IsBlank blanks ∧
      s.text = objectText blanks (members.map (·.2))

theorem isObject_objectText {members : List (String × Member)} {blanks : List Char}
    (hmembers : ∀ m ∈ members, IsString m.1 m.2.key.text ∧ IsValue m.2.value.text)
    (hblanks : IsBlank blanks) : IsObject members (objectText blanks (members.map (·.2))) :=
  ⟨hmembers, .behind [] (objectText blanks (members.map (·.2))) (by decide), blanks,
    (List.append_nil _).symm, hblanks, rfl⟩

end LiveFind.Json
