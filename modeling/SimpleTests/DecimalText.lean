import Mathlib.Data.Int.Notation
import Mathlib.Data.List.TakeWhile

/-! # Decimal numbers in text

`scan` splits a text as the C library does when it reads a number: white space, a sign,
the longest run of digits, and what is left.  It accepts any text with a digit in the
right place, however the text goes on.

`Denotes` is the stricter notion: the whole text is a decimal numeral, with or without a
sign.  `denotes_iff` says what separates the two: nothing may be skipped and nothing may be
left.

In the other direction, numbers are written in digits with a separator between them, and
`readFields_joinFields` reads them back.
-/
namespace SimpleTests.DecimalText

/-- A text, character by character. -/
abbrev Text := List Char

/-- `isspace()` in the C locale. -/
def isSpace (c : Char) : Bool := c.toNat = 32 || (9 ≤ c.toNat && c.toNat ≤ 13)

/-- The number that a run of digits stands for. -/
def value (digits : Text) : ℕ := Nat.ofDigitChars 10 digits 0

/-- A text as it is read: `skipped` white space, the sign, the digits, and the rest. -/
structure Scan where
  skipped : Text
  negative : Bool
  digits : Text
  rest : Text
  deriving DecidableEq

/-- The number that has been read. -/
def Scan.number (x : Scan) : ℤ := if x.negative then -(value x.digits) else value x.digits

/-- A sign at the start of a text, and the text behind it. -/
def takeSign : Text → Bool × Text
  | '-' :: t => (true, t)
  | '+' :: t => (false, t)
  | t => (false, t)

/-- Reads a number from the start of a text. -/
def scan (s : Text) : Scan :=
  let signed := takeSign (s.dropWhile isSpace)
  ⟨s.takeWhile isSpace, signed.1, signed.2.takeWhile Char.isDigit, signed.2.dropWhile Char.isDigit⟩

/-- A run of digits. -/
structure Digits (s : Text) : Prop where
  ne_nil : s ≠ []
  isDigit : ∀ c ∈ s, c.isDigit = true

/-- The whole text is a decimal numeral for the number. -/
inductive Denotes : Text → ℤ → Prop
  | unsigned {digits : Text} (h : Digits digits) : Denotes digits (value digits)
  | plus {digits : Text} (h : Digits digits) : Denotes ('+' :: digits) (value digits)
  | minus {digits : Text} (h : Digits digits) : Denotes ('-' :: digits) (-(value digits))

variable {s : Text} {n : ℤ}

theorem not_isSpace_of_isDigit {c : Char} (h : c.isDigit = true) : isSpace c = false := by
  simp only [Char.isDigit, Bool.and_eq_true, decide_eq_true_eq, UInt32.le_iff_toNat_le] at h
  have hlo : 48 ≤ c.toNat := h.1
  simp only [isSpace, Bool.or_eq_false_iff, Bool.and_eq_false_iff, decide_eq_false_iff_not]
  omega

/-- A text starts with one of the signs, or is read as it is. -/
theorem takeSign_cases (s : Text) : (∃ t, s = '-' :: t ∧ takeSign s = (true, t)) ∨
    (∃ t, s = '+' :: t ∧ takeSign s = (false, t)) ∨ takeSign s = (false, s) := by
  unfold takeSign
  split
  · exact Or.inl ⟨_, rfl, rfl⟩
  · exact Or.inr (Or.inl ⟨_, rfl, rfl⟩)
  · exact Or.inr (Or.inr rfl)

theorem takeSign_of_isDigit {c : Char} (h : c.isDigit = true) (t : Text) :
    takeSign (c :: t) = (false, c :: t) := by
  rcases takeSign_cases (c :: t) with ⟨u, heq, -⟩ | ⟨u, heq, -⟩ | heq
  · cases heq
    exact absurd h (by decide)
  · cases heq
    exact absurd h (by decide)
  · exact heq

/-- A run of digits is read to its end. -/
theorem Digits.takeWhile (h : Digits s) :
    s.takeWhile Char.isDigit = s ∧ s.dropWhile Char.isDigit = [] := by
  have hall : s.takeWhile Char.isDigit = s :=
    List.takeWhile_eq_self_iff.mpr h.isDigit
  refine ⟨hall, ?_⟩
  have hsplit := List.takeWhile_append_dropWhile (p := Char.isDigit) (l := s)
  rw [hall] at hsplit
  exact List.append_right_eq_self.mp hsplit

theorem scan_digits (h : Digits s) : scan s = ⟨[], false, s, []⟩ := by
  obtain ⟨htake, hdrop⟩ := h.takeWhile
  obtain ⟨c, t, rfl⟩ := List.exists_cons_of_ne_nil h.ne_nil
  have hc := h.isDigit c List.mem_cons_self
  have hspace : ¬ isSpace c = true := by simp [not_isSpace_of_isDigit hc]
  simp only [scan, List.takeWhile_cons_of_neg hspace, List.dropWhile_cons_of_neg hspace,
    takeSign_of_isDigit hc, htake, hdrop]

theorem scan_plus (h : Digits s) : scan ('+' :: s) = ⟨[], false, s, []⟩ := by
  obtain ⟨htake, hdrop⟩ := h.takeWhile
  show Scan.mk [] false (s.takeWhile Char.isDigit) (s.dropWhile Char.isDigit) = _
  rw [htake, hdrop]

theorem scan_minus (h : Digits s) : scan ('-' :: s) = ⟨[], true, s, []⟩ := by
  obtain ⟨htake, hdrop⟩ := h.takeWhile
  show Scan.mk [] true (s.takeWhile Char.isDigit) (s.dropWhile Char.isDigit) = _
  rw [htake, hdrop]

/-- **The numerals among the texts that can be read**: nothing is skipped, there is a
digit, and nothing is left. -/
theorem denotes_iff : Denotes s n ↔ (scan s).skipped = [] ∧ (scan s).digits ≠ [] ∧
    (scan s).rest = [] ∧ (scan s).number = n := by
  constructor
  · intro h
    cases h with
    | unsigned h => rw [scan_digits h]; exact ⟨rfl, h.ne_nil, rfl, rfl⟩
    | plus h => rw [scan_plus h]; exact ⟨rfl, h.ne_nil, rfl, rfl⟩
    | minus h => rw [scan_minus h]; exact ⟨rfl, h.ne_nil, rfl, rfl⟩
  · rintro ⟨hskip, hdigits, hrest, rfl⟩
    have hs : s.dropWhile isSpace = s := by
      have hsplit := List.takeWhile_append_dropWhile (p := isSpace) (l := s)
      have hskip : s.takeWhile isSpace = [] := hskip
      rwa [hskip] at hsplit
    have run : ∀ t : Text, t.takeWhile Char.isDigit ≠ [] → t.dropWhile Char.isDigit = [] →
        t.takeWhile Char.isDigit = t ∧ Digits t := by
      intro t hne ht
      have hsplit := List.takeWhile_append_dropWhile (p := Char.isDigit) (l := t)
      rw [ht, List.append_nil] at hsplit
      exact ⟨hsplit, hsplit ▸ hne, List.takeWhile_eq_self_iff.mp hsplit⟩
    simp only [scan, Scan.number, hs] at hdigits hrest ⊢
    rcases takeSign_cases s with ⟨t, rfl, heq⟩ | ⟨t, rfl, heq⟩ | heq
    · rw [heq] at hdigits hrest ⊢
      obtain ⟨ht, h⟩ := run t hdigits hrest
      rw [ht]
      exact .minus h
    · rw [heq] at hdigits hrest ⊢
      obtain ⟨ht, h⟩ := run t hdigits hrest
      rw [ht]
      exact .plus h
    · rw [heq] at hdigits hrest ⊢
      obtain ⟨ht, h⟩ := run s hdigits hrest
      rw [ht]
      exact .unsigned h

/-! ## Fields -/

/-- The number that a run of digits stands for, and nothing else. -/
def readDigits (s : Text) : Option ℕ :=
  if s ≠ [] ∧ s.all Char.isDigit = true then some (value s) else none

/-- Numbers in decimal, with a separator between them. -/
def joinFields (sep : Char) (ns : List ℕ) : Text := [sep].intercalate (ns.map (Nat.toDigits 10))

/-- The numbers between the separators. -/
def readFields (sep : Char) (s : Text) : Option (List ℕ) := (s.splitOn sep).mapM readDigits

theorem notMem_toDigits {sep : Char} (hsep : sep.isDigit = false) (m : ℕ) :
    sep ∉ Nat.toDigits 10 m := by
  intro hmem
  have hdigit := Nat.isDigit_of_mem_toDigits (by decide) (by decide) hmem
  exact absurd (hsep.symm.trans hdigit) (by simp)

theorem notMem_joinFields {sep c : Char} (hne : c ≠ sep) (hc : c.isDigit = false) (ns : List ℕ) :
    c ∉ joinFields sep ns := by
  unfold joinFields
  induction ns with
  | nil => exact List.not_mem_nil
  | cons m ns ih =>
    cases ns with
    | nil => simpa using notMem_toDigits hc m
    | cons k ns =>
      rw [List.map_cons, List.map_cons, List.intercalate_cons_cons, List.mem_append, List.mem_append]
      rintro ((hmem | hmem) | hmem)
      · exact notMem_toDigits hc m hmem
      · exact hne (List.mem_singleton.mp hmem)
      · exact ih hmem

theorem readDigits_toDigits (m : ℕ) : readDigits (Nat.toDigits 10 m) = some m := by
  have hall : (Nat.toDigits 10 m).all Char.isDigit = true := by
    apply List.all_eq_true.mpr
    intro c hc
    exact Nat.isDigit_of_mem_toDigits (by decide) (by decide) hc
  have hdigits : Nat.toDigits 10 m ≠ [] ∧ (Nat.toDigits 10 m).all Char.isDigit = true :=
    ⟨Nat.toDigits_ne_nil, hall⟩
  rw [readDigits, if_pos hdigits]
  exact congrArg some Nat.ofDigitChars_ten_toDigits

/-- **Fields are read back**, if the separator is no digit. -/
theorem readFields_joinFields {sep : Char} (hsep : sep.isDigit = false) {ns : List ℕ}
    (hne : ns ≠ []) : readFields sep (joinFields sep ns) = some ns := by
  have hsplit : (joinFields sep ns).splitOn sep = ns.map (Nat.toDigits 10) := by
    refine List.splitOn_intercalate sep (fun l hl => ?_) (by simpa using hne)
    obtain ⟨m, -, rfl⟩ := List.mem_map.mp hl
    exact notMem_toDigits hsep m
  rw [readFields, hsplit]
  clear hsplit hne
  induction ns with
  | nil => rfl
  | cons m ns ih => simp [readDigits_toDigits, ih]

end SimpleTests.DecimalText
