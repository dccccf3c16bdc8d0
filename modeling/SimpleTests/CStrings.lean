import Mathlib.Data.List.Basic
import Mathlib.Algebra.Notation.Defs
import Mathlib.Data.Nat.Notation
import Mathlib.Tactic.ByContra

/-! # C strings in memory

A function that is handed a pointer to a C string reads memory up to the first NUL.
`cString` is what it reads, and `none` where the memory it may read has no NUL, so that
it would go on behind the end.

`overwrite` is what remains of a memory into which a shorter piece is written at the
start: the tail of what was there before shows again.  `reprint` does both in turns, with
one memory for all pieces, and `reprint_eq_flatten_iff` says when it gives the pieces back.
-/
namespace SimpleTests.CStrings

/-- The bytes of an ASCII literal. -/
def literal (s : String) : List UInt8 := s.toList.map fun c => .ofNat c.toNat

variable {α : Type*} [Zero α] [DecidableEq α]

/-- The C string at the start of a memory. -/
def cString : List α → Option (List α)
  | [] => none
  | b :: memory => if b = 0 then some [] else (cString memory).map (b :: ·)

/-- A piece is written to the start of a memory. -/
def overwrite (piece memory : List α) : List α := piece ++ memory.drop piece.length

/-- Pieces are written to the start of a memory, and after each the C string there is
read; `none` if one of them has no end. -/
def reprint : List α → List (List α) → Option (List α)
  | _, [] => some []
  | memory, piece :: pieces =>
    (cString (overwrite piece memory)).bind fun s =>
      (reprint (overwrite piece memory) pieces).map (s ++ ·)

variable {s memory rest : List α}

theorem cString_append_nul (h : 0 ∉ s) : cString (s ++ 0 :: rest) = some s := by
  induction s with
  | nil => exact if_pos rfl
  | cons b s ih =>
    obtain ⟨hb, hs⟩ := List.ne_and_not_mem_of_not_mem_cons h
    show (if b = 0 then some [] else (cString (s ++ 0 :: rest)).map (b :: ·)) = _
    rw [if_neg (Ne.symm hb), ih hs]
    rfl

/-- Without a NUL there is no end. -/
theorem cString_eq_none_iff : cString memory = none ↔ 0 ∉ memory := by
  induction memory with
  | nil => exact ⟨fun _ => List.not_mem_nil, fun _ => rfl⟩
  | cons b memory ih =>
    show (if b = 0 then some [] else (cString memory).map (b :: ·)) = none ↔ _
    by_cases hb : b = 0
    · simp [hb]
    · rw [if_neg hb, Option.map_eq_none_iff, ih]
      exact ⟨List.not_mem_cons_of_ne_of_not_mem (Ne.symm hb), List.not_mem_of_not_mem_cons⟩

/-- What is read has no NUL in it. -/
theorem nul_notMem_of_cString (h : cString memory = some s) : 0 ∉ s := by
  induction memory generalizing s with
  | nil => cases h
  | cons b memory ih =>
    unfold cString at h
    by_cases hb : b = 0
    · rw [if_pos hb] at h
      cases h
      exact List.not_mem_nil
    · rw [if_neg hb] at h
      obtain ⟨t, ht, rfl⟩ := Option.map_eq_some_iff.mp h
      exact List.not_mem_cons_of_ne_of_not_mem (Ne.symm hb) (ih ht)

/-- What is read is shorter than the memory. -/
theorem length_lt_of_cString (h : cString memory = some s) : s.length < memory.length := by
  induction memory generalizing s with
  | nil => cases h
  | cons b memory ih =>
    unfold cString at h
    by_cases hb : b = 0
    · rw [if_pos hb] at h
      cases h
      exact Nat.succ_pos _
    · rw [if_neg hb] at h
      obtain ⟨t, ht, rfl⟩ := Option.map_eq_some_iff.mp h
      exact Nat.succ_lt_succ (ih ht)

/-- If the memory starts with `s`, and `s` has no NUL, the C string goes at least that
far. -/
theorem prefix_of_cString {t : List α} (hs : 0 ∉ s) (h : cString (s ++ rest) = some t) : s <+: t := by
  induction s generalizing t with
  | nil => exact List.nil_prefix
  | cons b s ih =>
    obtain ⟨hb, hs⟩ := List.ne_and_not_mem_of_not_mem_cons hs
    have h : (if b = 0 then some [] else (cString (s ++ rest)).map (b :: ·)) = some t := h
    rw [if_neg (Ne.symm hb)] at h
    obtain ⟨u, hu, rfl⟩ := Option.map_eq_some_iff.mp h
    exact List.cons_prefix_cons.mpr ⟨rfl, ih hs hu⟩

omit [Zero α] [DecidableEq α] in
/-- Writing over `s` leaves what lies behind it, if the piece is not longer. -/
theorem overwrite_append {piece : List α} (h : piece.length ≤ s.length) :
    overwrite piece (s ++ rest) = overwrite piece s ++ rest := by
  rw [overwrite, overwrite, List.drop_append_of_le_length h, List.append_assoc]

omit [Zero α] [DecidableEq α] in
theorem length_overwrite (piece : List α) :
    (overwrite piece s).length = max s.length piece.length := by
  rw [overwrite, List.length_append, List.length_drop]
  omega

/-! ## Printing from one memory -/

section Reprint
variable {piece printed : List α} {pieces : List (List α)}

theorem reprint_cons : reprint memory (piece :: pieces) = some printed ↔
    ∃ t u, cString (overwrite piece memory) = some t ∧
      reprint (overwrite piece memory) pieces = some u ∧ t ++ u = printed := by
  simp only [reprint, Option.bind_eq_some_iff, Option.map_eq_some_iff]
  constructor
  · rintro ⟨t, ht, u, hu, heq⟩
    exact ⟨t, u, ht, hu, heq⟩
  · rintro ⟨t, u, ht, hu, heq⟩
    exact ⟨t, ht, u, hu, heq⟩

/-- What is printed from the first piece on, behind what there was before. -/
theorem bind_reprint_cons (before : Option (List α)) :
    ((before.bind fun b => (cString (overwrite piece memory)).map (b ++ ·)).bind fun b =>
      (reprint (overwrite piece memory) pieces).map (b ++ ·)) =
    before.bind fun b => (reprint memory (piece :: pieces)).map (b ++ ·) := by
  show _ = before.bind fun b => ((cString (overwrite piece memory)).bind fun t =>
    (reprint (overwrite piece memory) pieces).map (t ++ ·)).map (b ++ ·)
  rcases before with - | b
  · rfl
  rcases cString (overwrite piece memory) with - | t
  · rfl
  show (reprint (overwrite piece memory) pieces).map (b ++ t ++ ·) =
    ((reprint (overwrite piece memory) pieces).map (t ++ ·)).map (b ++ ·)
  rw [Option.map_map]
  exact congrArg (Option.map · _) (funext fun u => List.append_assoc b t u)

theorem nul_notMem_reprint (h : reprint memory pieces = some printed) : 0 ∉ printed := by
  induction pieces generalizing memory printed with
  | nil =>
    cases h
    exact List.not_mem_nil
  | cons piece pieces ih =>
    obtain ⟨t, u, ht, hu, rfl⟩ := reprint_cons.mp h
    intro hmem
    rcases List.mem_append.mp hmem with hmem | hmem
    · exact nul_notMem_of_cString ht hmem
    · exact ih hu hmem

/-- No piece without a NUL is printed shorter than it is. -/
theorem length_le_reprint (hnul : ∀ c ∈ pieces, 0 ∉ c)
    (h : reprint memory pieces = some printed) : pieces.flatten.length ≤ printed.length := by
  induction pieces generalizing memory printed with
  | nil => exact Nat.zero_le _
  | cons piece pieces ih =>
    obtain ⟨hpiece, hpieces⟩ := List.forall_mem_cons.mp hnul
    obtain ⟨t, u, ht, hu, rfl⟩ := reprint_cons.mp h
    have hle := ih hpieces hu
    have hpre := (prefix_of_cString hpiece ht).length_le
    rw [List.flatten_cons, List.length_append, List.length_append]
    omega

variable {k : ℕ}

omit [DecidableEq α] in
/-- A piece that is not shorter covers all of `s`. -/
theorem overwrite_of_length_le (hs : s.length ≤ piece.length) :
    overwrite piece (s ++ List.replicate k 0) =
      piece ++ List.replicate (s.length + k - piece.length) 0 := by
  rw [overwrite, List.drop_append, List.drop_eq_nil_of_le hs, List.nil_append, List.drop_replicate]
  congr 2
  omega

/-- One piece is read back, where the memory holds `s` and `k` NULs. -/
theorem cString_overwrite_iff (hs : 0 ∉ s) (hfit : piece.length ≤ s.length + k) :
    cString (overwrite piece (s ++ List.replicate k 0)) = some piece ↔
      0 ∉ piece ∧ piece.length < s.length + k ∧ s.length ≤ piece.length := by
  constructor
  · intro h
    have hpiece := nul_notMem_of_cString h
    rcases Nat.lt_or_ge piece.length s.length with hlt | hge
    · -- the end of `s` shows behind the piece
      exfalso
      rw [overwrite_append (Nat.le_of_lt hlt)] at h
      have hnul : 0 ∉ overwrite piece s := by
        intro hmem
        rcases List.mem_append.mp hmem with hmem | hmem
        · exact hpiece hmem
        · exact hs (List.mem_of_mem_drop hmem)
      have hle := (prefix_of_cString hnul h).length_le
      rw [length_overwrite] at hle
      omega
    · refine ⟨hpiece, ?_, hge⟩
      by_contra hfull
      -- the piece fills the memory, and there is no NUL
      rw [overwrite_of_length_le hge, show s.length + k - piece.length = 0 from by omega,
        List.replicate_zero, List.append_nil, cString_eq_none_iff.mpr hpiece] at h
      cases h
  · rintro ⟨hpiece, hlt, hge⟩
    obtain ⟨n, hn⟩ : ∃ n, s.length + k - piece.length = n + 1 :=
      Nat.exists_eq_succ_of_ne_zero (by omega)
    rw [overwrite_of_length_le hge, hn, List.replicate_succ]
    exact cString_append_nul hpiece

/-- **When a reused memory prints what is written to it.**  The memory holds `s`, which
has no NUL, and `k` NULs behind it.  The pieces come back exactly if none of them has a
NUL, each leaves room for one, and none is shorter than what was there before. -/
theorem reprint_eq_flatten_iff (hs : 0 ∉ s) (hfit : ∀ c ∈ pieces, c.length ≤ s.length + k) :
    reprint (s ++ List.replicate k 0) pieces = some pieces.flatten ↔
      (∀ c ∈ pieces, 0 ∉ c ∧ c.length < s.length + k ∧ s.length ≤ c.length) ∧
      pieces.Pairwise (·.length ≤ ·.length) := by
  induction pieces generalizing s k with
  | nil => simp [reprint]
  | cons piece pieces ih =>
    obtain ⟨hpiece, hpieces⟩ := List.forall_mem_cons.mp hfit
    -- behind the first piece the memory is of the same form
    have next : 0 ∉ piece → s.length ≤ piece.length →
        (reprint (overwrite piece (s ++ List.replicate k 0)) pieces = some pieces.flatten ↔
          (∀ c ∈ pieces, 0 ∉ c ∧ c.length < s.length + k ∧ piece.length ≤ c.length) ∧
          pieces.Pairwise (·.length ≤ ·.length)) := by
      intro hnul hle
      have hroom : piece.length + (s.length + k - piece.length) = s.length + k := by omega
      rw [overwrite_of_length_le hle, ih hnul (by rwa [hroom]), hroom]
    rw [List.forall_mem_cons, List.pairwise_cons]
    constructor
    · intro h
      obtain ⟨t, u, ht, hu, heq⟩ := reprint_cons.mp h
      rw [List.flatten_cons] at heq
      have hnul : 0 ∉ piece ++ pieces.flatten := nul_notMem_reprint h
      have hfirst : 0 ∉ piece := fun hmem => hnul (List.mem_append_left _ hmem)
      have hrest : ∀ c ∈ pieces, 0 ∉ c := fun c hc hmem =>
        hnul (List.mem_append_right _ (List.mem_flatten_of_mem hc hmem))
      -- neither part is printed shorter, so neither is printed longer
      have hpre := prefix_of_cString hfirst ht
      have hlen := congrArg List.length heq
      rw [List.length_append, List.length_append] at hlen
      have hle := length_le_reprint hrest hu
      have ht' : piece = t := hpre.eq_of_length (by have := hpre.length_le; omega)
      subst ht'
      have hu' : u = pieces.flatten := List.append_cancel_left heq
      obtain ⟨-, hlt, hge⟩ := (cString_overwrite_iff hs hpiece).mp ht
      obtain ⟨hall, hpair⟩ := (next hfirst hge).mp (hu' ▸ hu)
      refine ⟨⟨⟨hfirst, hlt, hge⟩, fun c hc => ?_⟩, fun c hc => (hall c hc).2.2, hpair⟩
      obtain ⟨hc0, hclt, hcge⟩ := hall c hc
      exact ⟨hc0, hclt, Nat.le_trans hge hcge⟩
    · rintro ⟨⟨⟨hfirst, hlt, hge⟩, hall⟩, hle, hpair⟩
      refine reprint_cons.mpr ⟨piece, pieces.flatten, ?_, ?_, rfl⟩
      · exact (cString_overwrite_iff hs hpiece).mpr ⟨hfirst, hlt, hge⟩
      · refine (next hfirst hge).mpr ⟨fun c hc => ?_, hpair⟩
        exact ⟨(hall c hc).1, (hall c hc).2.1, hle c hc⟩

end Reprint

end SimpleTests.CStrings
