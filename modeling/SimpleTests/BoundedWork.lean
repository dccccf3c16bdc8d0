import SimpleTests.TransitionRuns
import Mathlib.Data.Nat.Init
import Mathlib.Order.Minimal

/-! # Work that is bounded by what causes it

A reactive program does not end, but it should work only when there is something to do.
`Pays` is the way to prove that: a potential that pays for each step of work, and that only
the causes of work raise, by no more than `K`.  Then a run has no more work than its start
and its causes allow (`Pays.countP_le`), and in an infinite run the causes come again and
again, or from some point on there is no work at all (`Pays.recurs_or_settles`).

Where a step changes a quantity by what it brings, `Run.add_tally_le` and `Run.le_add_tally` add
that up over a run, from below and from above.
-/
namespace SimpleTests.Transition

variable {S L : Type*} {R : S → L → S → Prop}

/-- The potential `μ` pays for the events of `work`, and an event of `cause` raises it by
`K` at most.  A step may rely on the invariant `I`. -/
structure Pays (R : S → L → S → Prop) (I : S → Prop) (μ : S → ℕ) (work cause : L → Bool)
    (K : ℕ) : Prop where
  inv : ∀ s l s', I s → R s l s' → I s'
  pays : ∀ s l s', I s → R s l s' → μ s' + (work l).toNat ≤ μ s + K * (cause l).toNat

/-- The events of an infinite run, with the states between them. -/
def Forever (R : S → L → S → Prop) (σ : ℕ → S) (ls : ℕ → L) : Prop :=
  ∀ n, R (σ n) (ls n) (σ (n + 1))

section Pays
variable {I : S → Prop} {μ : S → ℕ} {work cause : L → Bool} {K : ℕ} {s s' : S} {ls : List L}

theorem countP_cons_eq (p : L → Bool) (l : L) (ls : List L) :
    (l :: ls).countP p = ls.countP p + (p l).toNat := by
  rw [List.countP_cons]
  cases p l <;> rfl

/-- **The work of a run** is bounded by its causes. -/
theorem Pays.countP_le (h : Pays R I μ work cause K) (hr : Run R s ls s') (h0 : I s) :
    μ s' + ls.countP work ≤ μ s + K * ls.countP cause := by
  induction hr with
  | nil => exact Nat.le_refl _
  | @cons s m s' l ls hs _ ih =>
    have hstep := h.pays s l m h0 hs
    have hrest := ih (h.inv s l m h0 hs)
    rw [countP_cons_eq, countP_cons_eq, Nat.mul_add]
    omega

end Pays

/-! ## Accounts -/

/-- What the steps of a run bring altogether, where `f` says it of one step. -/
def tally (step : S → L → Option S) (f : S → L → ℕ) : S → List L → ℕ
  | _, [] => 0
  | s, l :: ls => f s l + (step s l).elim 0 fun m => tally step f m ls

section Tally
variable {step : S → L → Option S} {f g : S → L → ℕ} {s m s' : S} {l : L} {ls : List L}

theorem tally_cons (h : step s l = some m) :
    tally step f s (l :: ls) = f s l + tally step f m ls := by
  rw [tally, h]
  rfl

theorem tally_add (h : Run (Fires step) s ls s') :
    tally step (fun s l => f s l + g s l) s ls = tally step f s ls + tally step g s ls := by
  induction h with
  | nil => rfl
  | cons hs _ ih =>
    rw [tally_cons hs, tally_cons hs, tally_cons hs, ih]
    omega

variable {A : S → L → Prop} {I : S → Prop}

/-- **From below**: a quantity has grown by what the steps bring at least. -/
theorem Run.add_tally_le (μ : S → ℕ)
    (hI : ∀ s l s', I s → Guarded (Fires step) A s l s' → I s')
    (hstep : ∀ s l s', I s → Guarded (Fires step) A s l s' → μ s + f s l ≤ μ s')
    (h : Run (Guarded (Fires step) A) s ls s') (h0 : I s) :
    μ s + tally step f s ls ≤ μ s' := by
  induction h with
  | nil => exact Nat.le_refl _
  | @cons s m s' l ls hs _ ih =>
    have hone := hstep s l m h0 hs
    have hrest := ih (hI s l m h0 hs)
    rw [tally_cons hs.1]
    omega

/-- **From above**: a quantity has grown by what the steps bring at most. -/
theorem Run.le_add_tally (μ : S → ℕ)
    (hI : ∀ s l s', I s → Guarded (Fires step) A s l s' → I s')
    (hstep : ∀ s l s', I s → Guarded (Fires step) A s l s' → μ s' ≤ μ s + f s l)
    (h : Run (Guarded (Fires step) A) s ls s') (h0 : I s) :
    μ s' ≤ μ s + tally step f s ls := by
  induction h with
  | nil => exact Nat.le_refl _
  | @cons s m s' l ls hs _ ih =>
    have hone := hstep s l m h0 hs
    have hrest := ih (hI s l m h0 hs)
    rw [tally_cons hs.1]
    omega

end Tally

namespace Forever
variable {σ : ℕ → S} {ls : ℕ → L}

theorem invariant {I : S → Prop} (hI : ∀ s l s', I s → R s l s' → I s') (h : Forever R σ ls)
    (h0 : I (σ 0)) (n : ℕ) : I (σ n) := by
  induction n with
  | zero => exact h0
  | succ n ih => exact hI _ _ _ ih (h n)

/-- The first `n` events of an infinite run. -/
theorem run (h : Forever R σ ls) (n : ℕ) : Run R (σ 0) ((List.range n).map ls) (σ n) := by
  induction n with
  | zero => exact .nil (σ 0)
  | succ n ih =>
    rw [List.range_succ, List.map_append]
    exact ih.append (.single (h n))

/-- What the events from `n` on preserve stays as it is at `n`. -/
theorem view_eq {T : Type*} {f : S → T} {n : ℕ} (h : ∀ m ≥ n, f (σ (m + 1)) = f (σ m)) :
    ∀ m ≥ n, f (σ m) = f (σ n) := by
  intro m hm
  induction m, hm using Nat.le_induction with
  | base => rfl
  | succ m hm ih => exact (h m hm).trans ih

end Forever

/-- **The work of an infinite run**: its causes come again and again, or from some point on
there is none. -/
theorem Pays.recurs_or_settles {I : S → Prop} {μ : S → ℕ} {work cause : L → Bool} {K : ℕ}
    {σ : ℕ → S} {ls : ℕ → L} (h : Pays R I μ work cause K) (hr : Forever R σ ls)
    (h0 : I (σ 0)) :
    (∀ n, ∃ m ≥ n, cause (ls m) = true) ∨ ∃ n, ∀ m ≥ n, work (ls m) = false := by
  by_cases hrecurs : ∀ n, ∃ m ≥ n, cause (ls m) = true
  · exact Or.inl hrecurs
  · obtain ⟨n, hn⟩ := not_forall.mp hrecurs
    have hcause : ∀ m ≥ n, cause (ls m) = false := by
      intro m hm
      apply Bool.eq_false_iff.mpr
      exact fun htrue => hn ⟨m, hm, htrue⟩
    have hpays : ∀ m ≥ n, μ (σ (m + 1)) + (work (ls m)).toNat ≤ μ (σ m) := by
      intro m hm
      have hstep := h.pays _ _ _ (hr.invariant h.inv h0 m) (hr m)
      rw [hcause m hm] at hstep
      exact hstep
    -- where the potential is least from `n` on, it cannot pay any more
    obtain ⟨m, ⟨hm, hleast⟩⟩ : ∃ m, n ≤ m ∧ ∀ k ≥ n, μ (σ m) ≤ μ (σ k) := by
      obtain ⟨v, ⟨m, hm, rfl⟩, hv⟩ :=
        exists_minimal_of_wellFoundedLT (fun v => ∃ m ≥ n, μ (σ m) = v) ⟨_, n, Nat.le_refl n, rfl⟩
      refine ⟨m, hm, fun k hk => ?_⟩
      rcases Nat.le_total (μ (σ m)) (μ (σ k)) with hle | hle
      · exact hle
      · exact hv ⟨k, hk, rfl⟩ hle
    refine Or.inr ⟨m, fun k hk => ?_⟩
    have hlow : μ (σ k) ≤ μ (σ m) := by
      induction k, hk using Nat.le_induction with
      | base => exact Nat.le_refl _
      | succ k hk ih =>
        have hstep := hpays k (by omega)
        omega
    have hstep := hpays k (by omega)
    have hnext := hleast (k + 1) (by omega)
    cases hwork : work (ls k) with
    | false => rfl
    | true =>
      rw [hwork] at hstep
      have hone : μ (σ (k + 1)) + 1 ≤ μ (σ k) := hstep
      omega

end SimpleTests.Transition
