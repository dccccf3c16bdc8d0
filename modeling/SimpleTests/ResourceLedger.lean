import SimpleTests.TransitionRuns
import Mathlib.Logic.Function.Basic
import Mathlib.Data.Nat.Notation

/-! # Accounts of resources issued under reusable keys

A resource is issued under a key and released under it, and the key may then be
issued again: file descriptors, handles, slots of a pool.  `Book` numbers the issues,
so that two resources under one key are told apart, and keeps the list of what has been
released.

`Book.step` is the correct use: a key is issued only while it is free, and released
only while it is held.  `balanced_of_reachable` says what every history of correct use
amounts to, and `Balanced.settled` what it means once nothing is held: each issue has
been released exactly once.  A program that keeps a book by correct use, and possibly
does other things in between, has these facts by `Reachable.simulation`.
-/
namespace SimpleTests.ResourceLedger
open Transition

variable {K : Type*} [DecidableEq K]

/-- What is held under which key, how many resources have been issued, and the issues
released so far, most recent first, with `none` for the release of a free key. -/
structure Book (K : Type*) where
  held : K → Option ℕ
  issued : ℕ
  released : List (Option ℕ)

/-- An issue, or a release, under a key. -/
inductive Entry (K : Type*)
  | issue (k : K)
  | release (k : K)

namespace Book

/-- Nothing has been issued yet. -/
def empty : Book K := ⟨fun _ => none, 0, []⟩

def issue (b : Book K) (k : K) : Book K :=
  { b with held := Function.update b.held k (some b.issued), issued := b.issued + 1 }

def release (b : Book K) (k : K) : Book K :=
  { b with held := Function.update b.held k none, released := b.held k :: b.released }

/-- Correct use. -/
def step (b : Book K) : Entry K → Option (Book K)
  | .issue k => if b.held k = none then some (b.issue k) else none
  | .release k => if b.held k = none then none else some (b.release k)

variable {b b' : Book K}

theorem step_issue {k : K} (h : b.held k = none) : b.step (.issue k) = some (b.issue k) :=
  if_pos h

theorem step_release {k : K} (h : b.held k ≠ none) : b.step (.release k) = some (b.release k) :=
  if_neg h

theorem step_cases {x : Entry K} (h : b.step x = some b') :
    (∃ k, b.held k = none ∧ b' = b.issue k) ∨ ∃ k a, b.held k = some a ∧ b' = b.release k := by
  cases x with
  | issue k =>
    obtain ⟨hfree, hb⟩ := Option.ite_none_right_eq_some.mp h
    exact Or.inl ⟨k, hfree, (Option.some.inj hb).symm⟩
  | release k =>
    obtain ⟨hheld, hb⟩ := Option.ite_none_left_eq_some.mp h
    obtain ⟨a, ha⟩ := Option.ne_none_iff_exists'.mp hheld
    exact Or.inr ⟨k, a, ha, (Option.some.inj hb).symm⟩

end Book

/-- **The accounts**: every issue is held under one key, or has been released once, and
nothing else has been released. -/
structure Balanced (b : Book K) : Prop where
  held_lt : ∀ k a, b.held k = some a → a < b.issued
  unique : ∀ k k' a, b.held k = some a → b.held k' = some a → k = k'
  count_held : ∀ k a, b.held k = some a → b.released.count (some a) = 0
  count_free : ∀ a < b.issued, (∀ k, b.held k ≠ some a) → b.released.count (some a) = 1
  count_later : ∀ a, b.issued ≤ a → b.released.count (some a) = 0
  valid : none ∉ b.released

variable {b b' : Book K} {k : K}

omit [DecidableEq K] in
theorem balanced_empty : Balanced (Book.empty : Book K) := by
  constructor <;> simp [Book.empty]

/-- What is held after an issue: the new resource, and what was held before. -/
theorem held_issue {x : K} {a : ℕ} (hx : (b.issue k).held x = some a) :
    x = k ∧ a = b.issued ∨ x ≠ k ∧ b.held x = some a := by
  by_cases hxk : x = k
  · rw [hxk] at hx
    simp only [Book.issue, Function.update_self, Option.some.injEq] at hx
    exact Or.inl ⟨hxk, hx.symm⟩
  · simp only [Book.issue, Function.update_of_ne hxk] at hx
    exact Or.inr ⟨hxk, hx⟩

/-- What is held after a release: what was held before under other keys. -/
theorem held_release {x : K} {a : ℕ} :
    (b.release k).held x = some a ↔ x ≠ k ∧ b.held x = some a := by
  by_cases hxk : x = k
  · simp [Book.release, hxk]
  · simp [Book.release, hxk]

theorem Balanced.issue (h : Balanced b) (hfree : b.held k = none) : Balanced (b.issue k) := by
  refine ⟨fun x a hx => ?_, fun x y a hx hy => ?_, fun x a hx => ?_, fun a hlt hno => ?_,
    fun a hle => ?_, h.valid⟩
  · show a < b.issued + 1
    rcases held_issue hx with ⟨-, rfl⟩ | ⟨-, hx⟩
    · omega
    · have hlt := h.held_lt x a hx
      omega
  · -- what was held before is not the new issue
    rcases held_issue hx with ⟨hxk, hxa⟩ | ⟨-, hxold⟩
    · rcases held_issue hy with ⟨hyk, -⟩ | ⟨-, hyold⟩
      · rw [hxk, hyk]
      · have hlt := h.held_lt y a hyold
        omega
    · rcases held_issue hy with ⟨-, hya⟩ | ⟨-, hyold⟩
      · have hlt := h.held_lt x a hxold
        omega
      · exact h.unique x y a hxold hyold
  · rcases held_issue hx with ⟨-, rfl⟩ | ⟨-, hx⟩
    · exact h.count_later _ (Nat.le_refl _)
    · exact h.count_held x a hx
  · have hlt : a < b.issued + 1 := hlt
    have hne : a ≠ b.issued := by
      rintro rfl
      exact hno k (by simp [Book.issue])
    apply h.count_free a (by omega)
    intro x hx
    have hxk : x ≠ k := by
      rintro rfl
      rw [hfree] at hx
      cases hx
    exact hno x (by simpa [Book.issue, hxk] using hx)
  · have hle : b.issued + 1 ≤ a := hle
    exact h.count_later a (by omega)

theorem Balanced.release (h : Balanced b) {a : ℕ} (hheld : b.held k = some a) :
    Balanced (b.release k) := by
  have hlt := h.held_lt k a hheld
  have count : ∀ c, (b.release k).released.count (some c) =
      b.released.count (some c) + if a = c then 1 else 0 := by
    intro c
    show (b.held k :: b.released).count (some c) = _
    rw [hheld, List.count_cons]
    simp
  refine ⟨fun x c hx => h.held_lt x c (held_release.mp hx).2, fun x y c hx hy => ?_,
    fun x c hx => ?_, fun c hc hno => ?_, fun c hle => ?_, ?_⟩
  · exact h.unique x y c (held_release.mp hx).2 (held_release.mp hy).2
  · obtain ⟨hxk, hx⟩ := held_release.mp hx
    have hne : a ≠ c := by
      rintro rfl
      exact hxk (h.unique x k a hx hheld)
    rw [count, if_neg hne, h.count_held x c hx]
  · rw [count]
    by_cases hac : a = c
    · rw [if_pos hac, ← hac, h.count_held k a hheld]
    · rw [if_neg hac]
      apply h.count_free c hc
      intro x hx
      have hxk : x ≠ k := by
        rintro rfl
        rw [hheld] at hx
        exact hac (Option.some.inj hx)
      exact hno x (held_release.mpr ⟨hxk, hx⟩)
  · have hle : b.issued ≤ c := hle
    rw [count, if_neg (by omega), h.count_later c hle]
  · show none ∉ b.held k :: b.released
    rw [hheld]
    simpa using h.valid

/-- **Every history of correct use is balanced.** -/
theorem balanced_of_reachable (h : Reachable (Fires Book.step) (· = Book.empty) b) :
    Balanced b := by
  refine h.invariant (fun b hb => ?_) fun b x b' hb hs => ?_
  · rw [hb]
    exact balanced_empty
  · rcases Book.step_cases hs with ⟨k, hfree, rfl⟩ | ⟨k, a, hheld, rfl⟩
    · exact hb.issue hfree
    · exact hb.release hheld

omit [DecidableEq K] in
/-- **No leak and no double release**: once nothing is held, each issue has been released
exactly once, and no free key ever. -/
theorem Balanced.settled (h : Balanced b) (hfree : ∀ k, b.held k = none) :
    (∀ a < b.issued, b.released.count (some a) = 1) ∧ none ∉ b.released := by
  refine ⟨fun a ha => h.count_free a ha fun k hk => ?_, h.valid⟩
  rw [hfree k] at hk
  cases hk

end SimpleTests.ResourceLedger
