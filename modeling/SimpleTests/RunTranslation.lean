import SimpleTests.TransitionRuns
import Mathlib.Logic.Function.Basic

/-! # Runs read as runs of another system

A program whose steps amount to steps of an abstract system refines it.  `translate` reads
the abstract events off a run of the program, and `Run.translate` is the simulation rule for
whole runs, events included.

Many components that do not share anything are one system (`interleave`): an event moves the
component that it names.  A list of events is a run of it exactly if what each component sees
of it (`project`) is a run of that component (`run_interleave_iff`).  So a component behaves
as if it was alone, in whatever order the others move.
-/
namespace SimpleTests.Transition

variable {S L S' L' : Type*}

/-! ## Translation -/

/-- The abstract events that the events `ls` amount to, where `tr` reads them off one step. -/
def translate (step : S → L → Option S) (tr : S → L → List L') : S → List L → List L'
  | _, [] => []
  | s, l :: ls => tr s l ++ (step s l).elim [] fun m => translate step tr m ls

section Translate
variable {step : S → L → Option S} {A : S → L → Prop} {tr : S → L → List L'}
  {R' : S' → L' → S' → Prop} {f : S → S'} {s s' : S} {ls : List L}

theorem translate_cons {m : S} {l : L} (h : step s l = some m) :
    translate step tr s (l :: ls) = tr s l ++ translate step tr m ls := by
  rw [translate, h]
  rfl

/-- **Simulation of runs**: if each step amounts to a run of the viewed system, each run
does. -/
theorem Run.translate {I : S → Prop}
    (hI : ∀ s l s', I s → Guarded (Fires step) A s l s' → I s')
    (htr : ∀ s l s', I s → Guarded (Fires step) A s l s' → Run R' (f s) (tr s l) (f s'))
    (h : Run (Guarded (Fires step) A) s ls s') (h0 : I s) :
    Run R' (f s) (Transition.translate step tr s ls) (f s') := by
  induction h with
  | nil s => exact .nil (f s)
  | cons hs _ ih =>
    rw [translate_cons hs.1]
    exact (htr _ _ _ h0 hs).append (ih (hI _ _ _ h0 hs))

end Translate

/-! ## Components -/

/-- An executable system has one run at most for a list of events. -/
theorem Run.unique {step : S → L → Option S} {s s₁ s₂ : S} {ls : List L}
    (h₁ : Run (Fires step) s ls s₁) (h₂ : Run (Fires step) s ls s₂) : s₁ = s₂ := by
  induction h₁ with
  | nil s =>
    cases h₂
    rfl
  | cons hs _ ih =>
    cases h₂ with
    | cons hs' hr' =>
      obtain rfl := Option.some.inj (hs.symm.trans hs')
      exact ih hr'

variable {K : Type*} [DecidableEq K]

/-- The system of one component for each `k`.  An event names the component that moves. -/
def interleave (step : S → L → Option S) (σ : K → S) (e : K × L) : Option (K → S) :=
  (step (σ e.1) e.2).map (Function.update σ e.1)

/-- What the component `k` sees of a list of events. -/
def project (k : K) (es : List (K × L)) : List L :=
  es.filterMap fun e => if e.1 = k then some e.2 else none

section Interleave
variable {step : S → L → Option S} {σ σ' : K → S} {es : List (K × L)} {k k' : K} {l : L}

@[simp] theorem project_cons_self (k : K) (l : L) (es : List (K × L)) :
    project k ((k, l) :: es) = l :: project k es := by
  simp [project]

theorem project_cons_of_ne (h : k' ≠ k) (l : L) (es : List (K × L)) :
    project k ((k', l) :: es) = project k es := by
  simp [project, h]

theorem fires_interleave_iff :
    Fires (interleave step) σ (k, l) σ' ↔
      ∃ s, step (σ k) l = some s ∧ σ' = Function.update σ k s := by
  unfold Fires interleave
  rw [Option.map_eq_some_iff]
  exact exists_congr fun s => and_congr_right fun _ => eq_comm

/-- **A run of all the components is a run of each of them.** -/
theorem run_interleave_iff :
    Run (Fires (interleave step)) σ es σ' ↔ ∀ k, Run (Fires step) (σ k) (project k es) (σ' k) := by
  constructor
  · intro h k
    induction h with
    | nil σ => exact .nil (σ k)
    | @cons σ m σ' e es hs _ ih =>
      obtain ⟨k', l⟩ := e
      obtain ⟨s, hstep, rfl⟩ := fires_interleave_iff.mp hs
      by_cases hk : k' = k
      · subst hk
        rw [project_cons_self]
        rw [Function.update_self] at ih
        exact .cons hstep ih
      · rw [project_cons_of_ne hk]
        rw [Function.update_of_ne (Ne.symm hk)] at ih
        exact ih
  · intro h
    induction es generalizing σ with
    | nil =>
      have heq : σ = σ' := funext fun k => (Run.nil (σ k)).unique (h k)
      rw [heq]
      exact .nil σ'
    | cons e es ih =>
      obtain ⟨k, l⟩ := e
      have hk := h k
      rw [project_cons_self] at hk
      cases hk with
      | @cons _ s _ _ _ hstep hrest =>
        refine .cons (fires_interleave_iff.mpr ⟨s, hstep, rfl⟩) (ih fun k' => ?_)
        by_cases hne : k' = k
        · subst hne
          rw [Function.update_self]
          exact hrest
        · have hrun := h k'
          rw [project_cons_of_ne (Ne.symm hne)] at hrun
          rw [Function.update_of_ne hne]
          exact hrun

end Interleave

end SimpleTests.Transition
