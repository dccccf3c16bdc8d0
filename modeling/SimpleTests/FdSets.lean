import Mathlib.Data.Finset.Card
import Mathlib.Data.Finset.Lattice.Fold
import Mathlib.Order.Bounds.Basic

/-! # Descriptor sets

An `fd_set` is a bitmap of `FD_SETSIZE` bits.  The four macros do not check their
index: outside of the bitmap they read or write foreign memory, and nothing is
known of the program from there on.  So each of them is partial here, `none`
standing for that access, and an `FdSet` has members inside the bitmap only.
-/
namespace SimpleTests.Sockets

/-- `FD_SETSIZE` -/
def fdSetSize : ℕ := 1024

/-- `fd_set`, as the set of the descriptors whose bits are on. -/
@[ext] structure FdSet where
  bits : Finset ℕ
  inRange : ∀ sd ∈ bits, sd < fdSetSize
  deriving DecidableEq

namespace FdSet

instance : Membership ℕ FdSet := ⟨fun s sd => sd ∈ s.bits⟩

instance (sd : ℕ) (s : FdSet) : Decidable (sd ∈ s) := inferInstanceAs (Decidable (sd ∈ s.bits))

/-- `FD_ZERO` -/
def fdZero : FdSet := ⟨∅, by simp⟩

/-- `FD_SET` -/
def fdSet (sd : ℕ) (s : FdSet) : Option FdSet :=
  if h : sd < fdSetSize then
    some ⟨insert sd s.bits, fun _ hx => (Finset.mem_insert.mp hx).elim (· ▸ h) (s.inRange _)⟩
  else none

/-- `FD_CLR` -/
def fdClr (sd : ℕ) (s : FdSet) : Option FdSet :=
  if sd < fdSetSize then
    some ⟨s.bits.erase sd, fun _ hx => s.inRange _ (Finset.mem_of_mem_erase hx)⟩
  else none

/-- `FD_ISSET` -/
def fdIsset (sd : ℕ) (s : FdSet) : Option Bool :=
  if sd < fdSetSize then some (decide (sd ∈ s)) else none

/-- The loop `while (FD_ISSET(max_sd, &set) == FALSE) max_sd -= 1`, from `max_sd` on:
the value it ends with, or `none` if it reads outside of the bitmap, which below
it means a negative index. -/
def lower (s : FdSet) : ℕ → Option ℕ
  | 0 => (s.fdIsset 0).bind fun on => if on then some 0 else none
  | sd + 1 => (s.fdIsset (sd + 1)).bind fun on => if on then some (sd + 1) else s.lower sd

/-- The members in increasing order. -/
def members (s : FdSet) : List ℕ := (List.range fdSetSize).filter (· ∈ s)

/-- The members from `lo` on. -/
def atLeast (s : FdSet) (lo : ℕ) : Finset ℕ := s.bits.filter (lo ≤ ·)

variable {s s' : FdSet} {sd sd' lo : ℕ}

theorem lt_of_mem (h : sd ∈ s) : sd < fdSetSize := s.inRange sd h

theorem notMem_fdZero : sd ∉ fdZero := Finset.notMem_empty sd

theorem mem_fdSet (h : fdSet sd s = some s') : sd' ∈ s' ↔ sd' = sd ∨ sd' ∈ s := by
  unfold fdSet at h
  split at h
  · cases h; exact Finset.mem_insert
  · cases h

theorem mem_fdClr (h : fdClr sd s = some s') : sd' ∈ s' ↔ sd' ≠ sd ∧ sd' ∈ s := by
  unfold fdClr at h
  split at h
  · cases h; exact Finset.mem_erase
  · cases h

theorem fdClr_of_mem (h : sd ∈ s) : ∃ s', fdClr sd s = some s' :=
  ⟨_, if_pos (lt_of_mem h)⟩

theorem fdIsset_eq_some {on : Bool} (h : fdIsset sd s = some on) : on = true ↔ sd ∈ s := by
  unfold fdIsset at h
  split at h
  · cases h; exact decide_eq_true_iff
  · cases h

theorem fdIsset_eq_none (h : fdIsset sd s = none) : fdSetSize ≤ sd := by
  unfold fdIsset at h
  split at h
  · cases h
  · omega

theorem fdSet_eq_none (h : fdSet sd s = none) : fdSetSize ≤ sd := by
  unfold fdSet at h
  split at h
  · cases h
  · omega

theorem fdIsset_of_lt (h : sd < fdSetSize) : fdIsset sd s = some (decide (sd ∈ s)) := if_pos h

/-- **The search for the new maximum** ends at the greatest member that is not above
its start, if there is a member there at all. -/
theorem lower_spec (hlt : sd < fdSetSize) (h : ∃ m ∈ s, m ≤ sd) :
    ∃ k, s.lower sd = some k ∧ k ∈ s ∧ k ≤ sd ∧ ∀ m ∈ s, m ≤ sd → m ≤ k := by
  induction sd with
  | zero =>
    obtain ⟨m, hm, hle⟩ := h
    have h0 : 0 ∈ s := Nat.le_zero.mp hle ▸ hm
    refine ⟨0, ?_, h0, Nat.le_refl 0, fun m _ hm => hm⟩
    simp [lower, fdIsset_of_lt hlt, h0]
  | succ sd ih =>
    by_cases hon : sd + 1 ∈ s
    · refine ⟨sd + 1, ?_, hon, Nat.le_refl _, fun m _ hm => hm⟩
      simp [lower, fdIsset_of_lt hlt, hon]
    · have below : ∀ m ∈ s, m ≤ sd + 1 → m ≤ sd := fun m hm hle =>
        by
        refine Nat.le_of_lt_succ (Nat.lt_of_le_of_ne hle ?_)
        rintro rfl
        exact hon hm
      obtain ⟨m, hm, hle⟩ := h
      obtain ⟨k, hk, hmem, hks, hmax⟩ := ih (by omega) ⟨m, hm, below m hm hle⟩
      refine ⟨k, ?_, hmem, by omega, fun m hm hle => hmax m hm (below m hm hle)⟩
      simp [lower, fdIsset_of_lt hlt, hon, hk]

theorem mem_members : sd ∈ s.members ↔ sd ∈ s := by
  simp only [members, List.mem_filter, List.mem_range, decide_eq_true_iff]
  exact ⟨fun h => h.2, fun h => ⟨lt_of_mem h, h⟩⟩

/-- The list of the members is increasing, so it has each of them once. -/
theorem members_pairwise (s : FdSet) : s.members.Pairwise (· < ·) :=
  List.pairwise_lt_range.filter _

theorem members_eq_nil (h : s.bits.card = 0) : s.members = [] := by
  have hempty : s.bits = ∅ := Finset.card_eq_zero.mp h
  apply List.eq_nil_iff_forall_not_mem.mpr
  intro sd hsd
  have hmem : sd ∈ s.bits := mem_members.mp hsd
  rw [hempty] at hmem
  exact Finset.notMem_empty sd hmem

/-- The members below `lo` are all of them, if there is none from `lo` on. -/
theorem filter_range_eq_members (hlo : ∀ sd ∈ s, sd < lo) :
    (List.range lo).filter (· ∈ s) = s.members := by
  have cut : ∀ a b, a ≤ b → (∀ sd ∈ s, sd < a) →
      (List.range b).filter (· ∈ s) = (List.range a).filter (· ∈ s) := by
    intro a b hab ha
    induction b with
    | zero => rw [Nat.le_zero.mp hab]
    | succ b ih =>
      rcases Nat.lt_or_ge b a with hlt | hge
      · rw [show a = b + 1 from by omega]
      · have hb : b ∉ s := fun hb => absurd (ha b hb) (by omega)
        rw [List.range_succ, List.filter_append, ih hge]
        simp [hb]
  rcases Nat.le_total lo fdSetSize with hle | hle
  · exact (cut lo fdSetSize hle hlo).symm
  · exact cut fdSetSize lo hle fun sd hsd => lt_of_mem hsd

/-! ## Counting down the members -/

theorem mem_atLeast : sd ∈ s.atLeast lo ↔ sd ∈ s ∧ lo ≤ sd := Finset.mem_filter

@[simp] theorem atLeast_zero (s : FdSet) : s.atLeast 0 = s.bits := by simp [atLeast]

theorem atLeast_succ_of_notMem (h : lo ∉ s) : s.atLeast (lo + 1) = s.atLeast lo := by
  ext sd
  rw [mem_atLeast, mem_atLeast]
  refine and_congr_right fun hsd => ⟨fun hle => by omega, fun hle => ?_⟩
  exact Nat.lt_of_le_of_ne hle fun he => h (he ▸ hsd)

theorem card_atLeast_succ_of_mem (h : lo ∈ s) : (s.atLeast lo).card = (s.atLeast (lo + 1)).card + 1 := by
  have hins : s.atLeast lo = insert lo (s.atLeast (lo + 1)) := by
    ext sd
    rw [mem_atLeast, Finset.mem_insert, mem_atLeast]
    constructor
    · rintro ⟨hsd, hle⟩
      rcases Nat.eq_or_lt_of_le hle with he | hlt
      · exact Or.inl he.symm
      · exact Or.inr ⟨hsd, hlt⟩
    · rintro (rfl | ⟨hsd, hle⟩)
      · exact ⟨h, Nat.le_refl _⟩
      · exact ⟨hsd, by omega⟩
  rw [hins, Finset.card_insert_of_notMem]
  rw [mem_atLeast]
  exact fun hmem => absurd hmem.2 (by omega)

end FdSet

end SimpleTests.Sockets
