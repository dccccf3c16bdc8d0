import Mathlib.Data.List.Basic
import Mathlib.Data.List.Infix
import Mathlib.Order.Basic

/-! # Runs of labelled transition systems

A program in its environment is a transition relation `R s l s'`: in state `s`
the event `l` may happen and leads to `s'`.  The label carries what the
environment decided (the result of a system call, which thread moves), so the
program's own part is a function `step : S → L → Option S`, and `Fires step` is
the relation it gives.  Assumptions on the environment restrict the relation
(`Guarded`).

A property of every run is proved by one step at a time: `Run.invariant` and
`Reachable.invariant` do the induction once.  `Always` and `Along` speak of all
the states a run visits and of all the steps it takes; `always_iff_along` turns
an exact condition on one step into an exact condition on whole runs.
`StackDiscipline` is about systems that keep a stack.
-/
namespace SimpleTests.Transition

variable {S L : Type*}

/-- `Run R s ls s'`: the events `ls`, in order, lead from `s` to `s'`. -/
inductive Run (R : S → L → S → Prop) : S → List L → S → Prop
  | nil (s : S) : Run R s [] s
  | cons {s m s' : S} {l : L} {ls : List L} :
      R s l m → Run R m ls s' → Run R s (l :: ls) s'

/-- The transition relation of an executable step function. -/
def Fires (step : S → L → Option S) (s : S) (l : L) (s' : S) : Prop := step s l = some s'

/-- The transitions of `R` whose source and label satisfy the assumption `A`. -/
def Guarded (R : S → L → S → Prop) (A : S → L → Prop) (s : S) (l : L) (s' : S) : Prop :=
  R s l s' ∧ A s l

/-- Executes a list of events; `none` if one of them is not possible. -/
def replay (step : S → L → Option S) : S → List L → Option S
  | s, [] => some s
  | s, l :: ls => (step s l).bind (replay step · ls)

/-- The step function under a decidable assumption. -/
def restrict (step : S → L → Option S) (A : S → L → Prop) [∀ s l, Decidable (A s l)]
    (s : S) (l : L) : Option S :=
  if A s l then step s l else none

/-- `s` is the end of a run from an initial state. -/
def Reachable (R : S → L → S → Prop) (Init : S → Prop) (s : S) : Prop :=
  ∃ s₀ ls, Init s₀ ∧ Run R s₀ ls s

section Run
variable {R R' : S → L → S → Prop} {s m s' : S} {l : L} {ls ls' : List L}

theorem Run.append (h : Run R s ls m) (h' : Run R m ls' s') : Run R s (ls ++ ls') s' := by
  induction h with
  | nil => exact h'
  | cons hs _ ih => exact .cons hs (ih h')

/-- A run of two parts passes a state between them. -/
theorem Run.exists_of_append (h : Run R s (ls ++ ls') s') :
    ∃ m, Run R s ls m ∧ Run R m ls' s' := by
  induction ls generalizing s with
  | nil => exact ⟨s, .nil s, h⟩
  | cons l ls ih =>
    cases h with
    | cons hl hrest =>
      obtain ⟨m, hm, hm'⟩ := ih hrest
      exact ⟨m, .cons hl hm, hm'⟩

theorem Run.single (h : R s l s') : Run R s [l] s' := .cons h (.nil s')

/-- **The invariant rule**: what every step preserves, every run preserves. -/
theorem Run.invariant {I : S → Prop} (hI : ∀ s l s', I s → R s l s' → I s')
    (h : Run R s ls s') (h0 : I s) : I s' := by
  induction h with
  | nil => exact h0
  | cons hs _ ih => exact ih (hI _ _ _ h0 hs)

/-- The invariant rule with a history: `I hist s` speaks of the events so far as well, and
the labels satisfy `P`. -/
theorem Run.invariant_of_history {I : List L → S → Prop} {P : L → Prop}
    (hI : ∀ hist s l s', P l → I hist s → R s l s' → I (hist ++ [l]) s')
    (h : Run R s ls s') (hP : ∀ l ∈ ls, P l) (h0 : I [] s) : I ls s' := by
  have run : ∀ hist, I hist s → I (hist ++ ls) s' := by
    clear h0
    induction h with
    | nil =>
      intro hist h0
      rw [List.append_nil]
      exact h0
    | @cons s m s' l ls hs _ ih =>
      intro hist h0
      rw [List.append_cons]
      refine ih (fun l hl => hP l (List.mem_cons_of_mem _ hl)) _ ?_
      exact hI _ _ _ _ (hP _ List.mem_cons_self) h0 hs
  exact run [] h0

theorem Run.mono (hR : ∀ s l s', R s l s' → R' s l s') (h : Run R s ls s') :
    Run R' s ls s' := by
  induction h with
  | nil => exact .nil _
  | cons hs _ ih => exact .cons (hR _ _ _ hs) ih

/-- **The growth rule**: if no step makes the view `f` smaller, and the steps that leave it
as it is are those of `C`, then a run comes back to the view of its start exactly if all its
events are of `C`. -/
theorem Run.view_eq_iff {T : Type*} [PartialOrder T] {f : S → T} {C : L → Prop}
    (hR : ∀ s l s', R s l s' → f s ≤ f s' ∧ (f s' = f s ↔ C l)) (h : Run R s ls s') :
    f s ≤ f s' ∧ (f s' = f s ↔ ∀ l ∈ ls, C l) := by
  induction h with
  | nil s => exact ⟨le_refl (f s), iff_of_true rfl (List.forall_mem_nil _)⟩
  | @cons s m s' l ls hs hr ih =>
    obtain ⟨hle, heq⟩ := hR s l m hs
    obtain ⟨hle', heq'⟩ := ih
    refine ⟨hle.trans hle', ?_⟩
    rw [List.forall_mem_cons, ← heq, ← heq']
    constructor
    · intro hends
      -- the view in the middle lies between the two equal ends
      have hmiddle : f m = f s := le_antisymm (hle'.trans hends.le) hle
      exact ⟨hmiddle, hends.trans hmiddle.symm⟩
    · rintro ⟨hfirst, hrest⟩
      exact hrest.trans hfirst

/-- **The counting rule**: if a measure pays one for each event of `p`, and grows by one
at most, with the events of `q`, then a run has no more events of `p` than the measure at
its start and the events of `q` allow. -/
theorem Run.countP_le {μ : S → ℕ} {p q : L → Bool}
    (hμ : ∀ s l s', R s l s' → μ s' + (p l).toNat ≤ μ s + (q l).toNat) (h : Run R s ls s') :
    μ s' + ls.countP p ≤ μ s + ls.countP q := by
  induction h with
  | nil => exact Nat.le_refl _
  | @cons s m s' l ls hs _ ih =>
    have hstep := hμ s l m hs
    have count : ∀ r : L → Bool, (l :: ls).countP r = ls.countP r + (r l).toNat := by
      intro r
      rw [List.countP_cons]
      cases r l <;> rfl
    rw [count, count]
    omega

end Run

section Reachable
variable {R : S → L → S → Prop} {Init : S → Prop} {s s' : S} {l : L} {ls : List L}

theorem Reachable.initial (h : Init s) : Reachable R Init s := ⟨s, [], h, .nil s⟩

theorem Reachable.run (h : Reachable R Init s) (h' : Run R s ls s') : Reachable R Init s' := by
  obtain ⟨s₀, ls₀, h0, hr⟩ := h
  exact ⟨s₀, ls₀ ++ ls, h0, hr.append h'⟩

theorem Reachable.step (h : Reachable R Init s) (h' : R s l s') : Reachable R Init s' :=
  h.run (.single h')

/-- What holds initially and is preserved by every step holds of every reachable
state. -/
theorem Reachable.invariant {I : S → Prop} (hInit : ∀ s, Init s → I s)
    (hI : ∀ s l s', I s → R s l s' → I s') (h : Reachable R Init s) : I s := by
  obtain ⟨s₀, ls, h0, hr⟩ := h
  exact hr.invariant hI (hInit s₀ h0)

/-- The same, where a step may rely on its source being reachable, and so on every
invariant already known. -/
theorem Reachable.induction {I : S → Prop} (hInit : ∀ s, Init s → I s)
    (hI : ∀ s l s', Reachable R Init s → I s → R s l s' → I s')
    (h : Reachable R Init s) : I s := by
  have both : Reachable R Init s ∧ I s := by
    refine Reachable.invariant (I := fun s => Reachable R Init s ∧ I s)
      (fun s h0 => ⟨.initial h0, hInit s h0⟩) (fun s l s' hs hstep => ?_) h
    exact ⟨hs.1.step hstep, hI s l s' hs.1 hs.2 hstep⟩
  exact both.2

/-- **Simulation**: a system each of whose steps leaves the view `f` as it is, or is a
step of the viewed system, shows reachable states of that system only. -/
theorem Reachable.simulation {S' L' : Type*} {R' : S' → L' → S' → Prop} {Init' : S' → Prop}
    {f : S → S'} (hInit : ∀ s, Init s → Init' (f s))
    (hstep : ∀ s l s', Reachable R Init s → R s l s' → f s' = f s ∨ ∃ l', R' (f s) l' (f s'))
    (h : Reachable R Init s) : Reachable R' Init' (f s) := by
  refine h.induction (I := fun s => Reachable R' Init' (f s)) (fun s h0 => .initial (hInit s h0))
    fun s l s' hr hf hs => ?_
  rcases hstep s l s' hr hs with heq | ⟨l', hs'⟩
  · rw [heq]
    exact hf
  · exact hf.step hs'

end Reachable

section Replay
variable {step : S → L → Option S} {s s' : S} {ls : List L}

theorem run_of_replay (h : replay step s ls = some s') : Run (Fires step) s ls s' := by
  induction ls generalizing s with
  | nil => exact Option.some.inj h ▸ .nil s
  | cons l ls ih =>
    obtain ⟨m, hm, h⟩ := Option.bind_eq_some_iff.mp h
    exact .cons hm (ih h)

theorem replay_append (s : S) (ls ls' : List L) :
    replay step s (ls ++ ls') = (replay step s ls).bind (replay step · ls') := by
  induction ls generalizing s with
  | nil => rfl
  | cons l ls ih =>
    show (step s l).bind (replay step · (ls ++ ls')) = _
    simp only [ih, replay, Option.bind_assoc]

/-- Steps under an assumption, as a relation and as a function. -/
theorem fires_restrict_iff {A : S → L → Prop} [∀ s l, Decidable (A s l)] {l : L} :
    Fires (restrict step A) s l s' ↔ Guarded (Fires step) A s l s' := by
  unfold Fires restrict
  by_cases h : A s l
  · rw [if_pos h]
    exact ⟨fun hs => ⟨hs, h⟩, fun hs => hs.1⟩
  · rw [if_neg h]
    exact ⟨fun hs => (nomatch hs), fun hs => absurd hs.2 h⟩

/-- Executing under an assumption is running under it. -/
theorem run_guarded_of_replay {A : S → L → Prop} [∀ s l, Decidable (A s l)]
    (h : replay (restrict step A) s ls = some s') : Run (Guarded (Fires step) A) s ls s' :=
  (run_of_replay h).mono fun _ _ _ => fires_restrict_iff.mp

end Replay

/-! ## All states and all steps of a run -/

/-- Every state the events `ls` visit from `s` on, `s` and the last one included,
satisfies `P`. -/
def Always (step : S → L → Option S) (P : S → Prop) : S → List L → Prop
  | s, [] => P s
  | s, l :: ls => P s ∧ ∀ s' ∈ step s l, Always step P s' ls

/-- Every step the events `ls` take from `s` on satisfies `C` (a condition on the
state before the step and its label). -/
def Along (step : S → L → Option S) (C : S → L → Prop) : S → List L → Prop
  | _, [] => True
  | s, l :: ls => C s l ∧ ∀ s' ∈ step s l, Along step C s' ls

instance Along.decidable (step : S → L → Option S) (C : S → L → Prop) [∀ s l, Decidable (C s l)] :
    ∀ s ls, Decidable (Along step C s ls)
  | _, [] => .isTrue trivial
  | s, l :: ls =>
    have := fun s' => Along.decidable step C s' ls
    inferInstanceAs (Decidable (C s l ∧ ∀ s' ∈ step s l, Along step C s' ls))

/-- **An exact step condition is an exact run condition.**  If a step from a good
state leads to a good state exactly when it meets `C`, then a run from a good
state visits good states only exactly when all its steps meet `C`.  A step may rely on an
invariant `I`. -/
theorem always_iff_along_of_invariant {step : S → L → Option S} {I P : S → Prop}
    {C : S → L → Prop} (hI : ∀ s l s', I s → step s l = some s' → I s')
    (hstep : ∀ s l s', I s → P s → step s l = some s' → (P s' ↔ C s l))
    {s s' : S} {ls : List L} (hr : Run (Fires step) s ls s') (h0 : I s) (hs : P s) :
    Always step P s ls ↔ Along step C s ls := by
  induction hr with
  | nil => exact ⟨fun _ => trivial, fun _ => hs⟩
  | @cons s m s' l ls hsl hr ih =>
    have hm : ∀ m', step s l = some m' → m' = m := fun m' h =>
      Option.some.inj (h.symm.trans hsl)
    have head : Always step P m ls → P m := fun h => by
      cases ls with
      | nil => exact h
      | cons => exact h.1
    have hIm : I m := hI s l m h0 hsl
    constructor
    · rintro ⟨-, h⟩
      have hP : P m := head (h m hsl)
      refine ⟨(hstep s l m h0 hs hsl).mp hP, fun m' h' => ?_⟩
      rw [hm m' h']
      exact (ih hIm hP).mp (h m hsl)
    · rintro ⟨hC, h⟩
      have hP : P m := (hstep s l m h0 hs hsl).mpr hC
      refine ⟨hs, fun m' h' => ?_⟩
      rw [hm m' h']
      exact (ih hIm hP).mpr (h m hsl)

/-- The same without an invariant. -/
theorem always_iff_along {step : S → L → Option S} {P : S → Prop} {C : S → L → Prop}
    (hstep : ∀ s l s', P s → step s l = some s' → (P s' ↔ C s l))
    {s s' : S} {ls : List L} (hr : Run (Fires step) s ls s') (hs : P s) :
    Always step P s ls ↔ Along step C s ls :=
  always_iff_along_of_invariant (I := fun _ => True) (fun _ _ _ _ _ => trivial)
    (fun s l s' _ => hstep s l s') hr trivial hs

/-! ## Systems that keep a stack

`frames s` is a stack that every step grows by one frame, shrinks by one, or leaves as it
is (`Disciplined`): live objects of nested scopes, activation records, open brackets.

A run that never goes below its height at the start leaves the frames it started with
alone (`frames_suffix`).  So over a `Lifetime`, from the step that pushes a frame to the one
that pops it, the closing step finds the very stack that the opening one has left
(`Lifetime.frames_eq`), whatever has happened in between.
-/

namespace StackDiscipline

variable {F : Type*} {R : S → L → S → Prop} {frames : S → List F}

/-- Every step pushes one frame, pops one, or leaves the stack as it is. -/
def Disciplined (R : S → L → S → Prop) (frames : S → List F) : Prop :=
  ∀ s l s', R s l s' → (∃ f, frames s' = f :: frames s) ∨ (∃ f, frames s = f :: frames s') ∨
    frames s' = frames s

/-- The steps that leave at least `n` frames. -/
def Over (R : S → L → S → Prop) (frames : S → List F) (n : ℕ) (s : S) (l : L) (s' : S) : Prop :=
  R s l s' ∧ n ≤ (frames s').length

/-- The frame that the event `o` pushes is there until the event `c`: from `s` the steps
are `o`, the events `ls` above it, and `c`. -/
def Lifetime (R : S → L → S → Prop) (frames : S → List F) (o c : L) (s : S) (ls : List L)
    (s' : S) : Prop :=
  ∃ opened last, R s o opened ∧ Run (Over R frames (frames opened).length) opened ls last ∧
    (frames last).length = (frames opened).length ∧ R last c s'

/-- **What lies deep enough stays.** -/
theorem frames_suffix (hR : Disciplined R frames) {base : List F} {s s' : S} {ls : List L}
    (hrun : Run (Over R frames base.length) s ls s') (hs : base <:+ frames s) :
    base <:+ frames s' := by
  refine hrun.invariant (I := fun s => base <:+ frames s) (fun s l s' hs hstep => ?_) hs
  obtain ⟨hstep, hle⟩ := hstep
  rcases hR s l s' hstep with ⟨f, hpush⟩ | ⟨f, hpop⟩ | hsame
  · rw [hpush]
    exact hs.trans (List.suffix_cons f _)
  · rw [hpop] at hs
    rcases List.suffix_cons_iff.mp hs with heq | hs
    · -- the base would have lost its top frame
      rw [heq, List.length_cons] at hle
      omega
    · exact hs
  · rw [hsame]
    exact hs

/-- **The closing step finds the stack of the opening one.** -/
theorem Lifetime.frames_eq (hR : Disciplined R frames) {o c : L} {s s' : S} {ls : List L}
    (h : Lifetime R frames o c s ls s') :
    ∃ opened last, R s o opened ∧ R last c s' ∧ frames last = frames opened := by
  obtain ⟨opened, last, ho, hrun, hlen, hc⟩ := h
  have hsuffix := frames_suffix hR hrun (List.suffix_refl _)
  exact ⟨opened, last, ho, hc, (hsuffix.eq_of_length hlen.symm).symm⟩

end StackDiscipline

end SimpleTests.Transition
