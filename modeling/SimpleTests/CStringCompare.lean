import SimpleTests.CStrings
import Mathlib.Data.Int.Notation
import Mathlib.Data.List.Forall2

/-! # Comparing C strings

`strcmp()` and `strcasecmp()` of the C locale.  Both go through two strings until a byte
differs, and the NUL at the end counts as a byte.  So a proper prefix differs from the whole
string, since no byte of the rest is a NUL.

A result of 0 is what callers look at: `strcmp_eq_zero_iff` says that it means the same
bytes, and `strcasecmp_eq_zero_iff` that it means the same letters, whatever their case.
-/
namespace SimpleTests.CStrings

/-- A string that is terminated by a NUL: the bytes before it. -/
@[ext] structure CStr where
  bytes : List UInt8
  nul_notMem : 0 ∉ bytes
  deriving DecidableEq

/-- A byte of the string or, behind the last one, its NUL. -/
def CStr.byte (s : CStr) (i : ℕ) : UInt8 := s.bytes.getD i 0

/-- How the first bytes that differ compare as unsigned integers. -/
def compareBytes : List UInt8 → List UInt8 → ℤ
  | [], [] => 0
  | a :: _, [] => a.toNat
  | [], b :: _ => -b.toNat
  | a :: as, b :: bs => if a = b then compareBytes as bs else a.toNat - b.toNat

/-- `strcmp()` -/
def strcmp (s t : CStr) : ℤ := compareBytes s.bytes t.bytes

/-- An upper case letter of ASCII. -/
def IsUpper (b : UInt8) : Prop := 65 ≤ b.toNat ∧ b.toNat ≤ 90

instance (b : UInt8) : Decidable (IsUpper b) := inferInstanceAs (Decidable (_ ∧ _))

/-- `tolower()` in the C locale. -/
def tolower (b : UInt8) : UInt8 := if IsUpper b then b + 32 else b

/-- An upper case letter is moved by 32, and any other byte stays. -/
theorem toNat_tolower (b : UInt8) :
    IsUpper b ∧ (tolower b).toNat = b.toNat + 32 ∨ ¬ IsUpper b ∧ (tolower b).toNat = b.toNat := by
  unfold tolower
  by_cases h : IsUpper b
  · have hle := h.2
    rw [if_pos h, UInt8.toNat_add]
    refine .inl ⟨h, ?_⟩
    show (b.toNat + 32) % 256 = b.toNat + 32
    omega
  · rw [if_neg h]
    exact .inr ⟨h, rfl⟩

theorem tolower_eq_zero_iff {b : UInt8} : tolower b = 0 ↔ b = 0 := by
  have hb := toNat_tolower b
  rw [← UInt8.toNat_inj, ← UInt8.toNat_inj]
  show (tolower b).toNat = 0 ↔ b.toNat = 0
  unfold IsUpper at hb
  omega

namespace CStr

/-- The string in lower case. -/
def lower (s : CStr) : CStr where
  bytes := s.bytes.map tolower
  nul_notMem := by
    intro hmem
    obtain ⟨b, hb, hzero⟩ := List.mem_map.mp hmem
    exact s.nul_notMem (tolower_eq_zero_iff.mp hzero ▸ hb)

end CStr

/-- `strcasecmp()`, which compares as if both strings were converted to lower case. -/
def strcasecmp (s t : CStr) : ℤ := strcmp s.lower t.lower

/-! ## Strings that compare as equal -/

/-- The same byte, or the two cases of one letter. -/
def SameLetter (a b : UInt8) : Prop :=
  a = b ∨ IsUpper a ∧ b.toNat = a.toNat + 32 ∨ IsUpper b ∧ a.toNat = b.toNat + 32

/-- The same letters, whatever their case. -/
def CStr.SameIgnoringCase (s t : CStr) : Prop := List.Forall₂ SameLetter s.bytes t.bytes

theorem tolower_eq_iff {a b : UInt8} : tolower a = tolower b ↔ SameLetter a b := by
  have ha := toNat_tolower a
  have hb := toNat_tolower b
  rw [← UInt8.toNat_inj, SameLetter, ← UInt8.toNat_inj]
  unfold IsUpper at *
  omega

theorem compareBytes_eq_zero_iff {as bs : List UInt8} (ha : 0 ∉ as) (hb : 0 ∉ bs) :
    compareBytes as bs = 0 ↔ as = bs := by
  have pos : ∀ {c : UInt8} {cs : List UInt8}, 0 ∉ c :: cs → 0 < c.toNat := by
    intro c cs h
    have hne : c ≠ 0 := fun heq => h (heq ▸ List.mem_cons_self)
    exact Nat.pos_of_ne_zero fun hzero => hne (UInt8.toNat_inj.mp hzero)
  induction as generalizing bs with
  | nil =>
    cases bs with
    | nil => exact iff_of_true rfl rfl
    | cons b bs =>
      have hpos := pos hb
      simp only [compareBytes, reduceCtorEq, iff_false]
      omega
  | cons a as ih =>
    cases bs with
    | nil =>
      have hpos := pos ha
      simp only [compareBytes, reduceCtorEq, iff_false]
      omega
    | cons b bs =>
      unfold compareBytes
      by_cases hab : a = b
      · have htail : compareBytes as bs = 0 ↔ as = bs :=
          ih (List.not_mem_of_not_mem_cons ha) (List.not_mem_of_not_mem_cons hb)
        rw [if_pos hab, htail, List.cons.injEq]
        exact (and_iff_right hab).symm
      · rw [if_neg hab, List.cons.injEq]
        have hne : a.toNat ≠ b.toNat := fun h => hab (UInt8.toNat_inj.mp h)
        refine iff_of_false (by omega) fun h => hab h.1

variable {s t u : CStr}

theorem strcmp_eq_zero_iff : strcmp s t = 0 ↔ s = t := by
  rw [strcmp, compareBytes_eq_zero_iff s.nul_notMem t.nul_notMem, CStr.ext_iff]

theorem CStr.lower_eq_iff : s.lower = t.lower ↔ s.SameIgnoringCase t := by
  have hletters : (fun a b => tolower a = tolower b) = SameLetter :=
    funext fun a => funext fun b => propext tolower_eq_iff
  rw [CStr.ext_iff, CStr.SameIgnoringCase, ← hletters]
  show s.bytes.map tolower = t.bytes.map tolower ↔ _
  rw [← List.forall₂_eq_eq_eq, List.forall₂_map_left_iff, List.forall₂_map_right_iff]

theorem strcasecmp_eq_zero_iff : strcasecmp s t = 0 ↔ s.SameIgnoringCase t := by
  rw [strcasecmp, strcmp_eq_zero_iff, CStr.lower_eq_iff]

instance (s t : CStr) : Decidable (s.SameIgnoringCase t) := decidable_of_iff _ CStr.lower_eq_iff

theorem CStr.SameIgnoringCase.refl (s : CStr) : s.SameIgnoringCase s := lower_eq_iff.mp rfl

/-- Two strings that are the same as a third one are the same. -/
theorem CStr.SameIgnoringCase.euclidean (h : s.SameIgnoringCase t) (h' : s.SameIgnoringCase u) :
    t.SameIgnoringCase u :=
  lower_eq_iff.mp ((lower_eq_iff.mpr h).symm.trans (lower_eq_iff.mpr h'))

theorem CStr.byte_zero_eq_zero_iff : s.byte 0 = 0 ↔ s.bytes = [] := by
  obtain ⟨bytes, hnul⟩ := s
  cases bytes with
  | nil => exact iff_of_true rfl rfl
  | cons b bytes =>
    refine iff_of_false (fun h => hnul ?_) (by simp)
    have hb : b = 0 := h
    rw [hb]
    exact List.mem_cons_self

end SimpleTests.CStrings
