import SimpleTests.TransitionRuns

/-! # Injecting mocks through one static pointer

`Caller` of `mock/proofs/proof5.cpp`.  All `Caller` objects share the static pointer
`m_ptr_workerObj`.  One that is constructed with a mock saves the pointer and redirects it,
and its destructor puts the saved pointer back.

`Scopes` is what this is for: a stack of mocks, of which the innermost one is called, and
the real worker if there is none.  With one default-constructed `Caller` for the whole
program the pointer and the saved pointers are such a stack (`Represents`), and the program
is a run of `Scopes` (`injection_is_stack`).

A default-constructed `Caller` saves nothing.  Its destructor is the same, and leaves a null
pointer behind whatever there was before (`default_not_harmless`).
-/
namespace SimpleTests.MockCaller
open Transition StackDiscipline

variable {W : Type*}

/-- A `Caller` object: its member `m_ptr_oldObj`, `none` for a null pointer. -/
structure Caller (W : Type*) where
  oldObj : Option W
  deriving DecidableEq

/-- The static pointer `m_ptr_workerObj` and the live `Caller` objects, the last one
constructed first. -/
structure World (W : Type*) where
  workerObj : Option W
  callers : List (Caller W)
  /-- The pointers that `calling()` has gone through, most recent first. -/
  dispatched : List (Option W)
  deriving DecidableEq

/-- What a program does with `Caller` objects.  Automatic objects are destroyed in the
opposite order of their construction. -/
inductive Event (W : Type*)
  /-- `Caller(&mock)` -/
  | inject (mock : W)
  /-- `Caller()` -/
  | construct
  /-- `set(&real)` on the `k`-th live object -/
  | set (k : ℕ) (real : W)
  /-- `calling()` on the `k`-th live object -/
  | calling (k : ℕ)
  /-- `~Caller()` of the last object constructed -/
  | destroy
  deriving DecidableEq

/-- Before any object is constructed. -/
def initial : World W := ⟨none, [], []⟩

/-- One step of a program. -/
def step (s : World W) : Event W → Option (World W)
  | .inject mock => some { s with workerObj := some mock, callers := ⟨s.workerObj⟩ :: s.callers }
  | .construct => some { s with callers := ⟨none⟩ :: s.callers }
  | .set k real => if k < s.callers.length then some { s with workerObj := some real } else none
  | .calling k =>
    if k < s.callers.length then some { s with dispatched := s.workerObj :: s.dispatched } else none
  | .destroy =>
    match s.callers with
    | [] => none
    | c :: callers => some { s with workerObj := c.oldObj, callers := callers }

variable {s s₀ s' : World W} {real : W} {es : List (Event W)}

theorem step_destroy (h : step s .destroy = some s') :
    ∃ c, s.callers = c :: s'.callers ∧ s'.workerObj = c.oldObj ∧ s'.dispatched = s.dispatched := by
  unfold step at h
  rcases hc : s.callers with _ | ⟨c, callers⟩
  · rw [hc] at h
    cases h
  · rw [hc] at h
    cases h
    exact ⟨c, rfl, rfl, rfl⟩

/-- Live objects are a stack. -/
theorem disciplined : Disciplined (Fires (step (W := W))) World.callers := by
  intro s e s' h
  cases e with
  | inject mock =>
    cases h
    exact Or.inl ⟨_, rfl⟩
  | construct =>
    cases h
    exact Or.inl ⟨_, rfl⟩
  | set k real =>
    obtain ⟨-, h⟩ := Option.ite_none_right_eq_some.mp h
    cases h
    exact Or.inr (Or.inr rfl)
  | calling k =>
    obtain ⟨-, h⟩ := Option.ite_none_right_eq_some.mp h
    cases h
    exact Or.inr (Or.inr rfl)
  | destroy =>
    obtain ⟨c, hc, -⟩ := step_destroy h
    exact Or.inr (Or.inl ⟨c, hc⟩)

/-- The lifetime of an object: its construction `o`, what happens while it lives, and its
destruction. -/
abbrev Lives (o : Event W) : World W → List (Event W) → World W → Prop :=
  Lifetime (Fires step) World.callers o .destroy

/-- An object is destroyed with the pointer it has saved. -/
theorem Lives.workerObj {o : Event W} {old : Option W}
    (ho : ∀ opened, step s o = some opened → opened.callers = ⟨old⟩ :: s.callers)
    (h : Lives o s es s') : s'.workerObj = old := by
  obtain ⟨opened, last, hopen, hclose, hframes⟩ := Lifetime.frames_eq disciplined h
  obtain ⟨c, hc, hworker, -⟩ := step_destroy hclose
  rw [hframes, ho opened hopen] at hc
  rw [hworker, ← (List.cons.inj hc).1]

/-! ## The stack of mocks -/

/-- The mocks of the open scopes, innermost first, and the workers that calls have
reached. -/
structure Scopes (W : Type*) where
  mocks : List W
  reached : List W
  deriving DecidableEq

namespace Scopes

/-- No scope is open. -/
def none : Scopes W := ⟨[], []⟩

/-- The worker that a call reaches. -/
def innermost (a : Scopes W) (real : W) : W := a.mocks.headD real

/-- What scopes and calls mean. -/
def step (real : W) (a : Scopes W) : Event W → Option (Scopes W)
  | .inject mock => some { a with mocks := mock :: a.mocks }
  | .calling _ => some { a with reached := a.innermost real :: a.reached }
  | .destroy =>
    match a.mocks with
    | [] => Option.none
    | _ :: mocks => some { a with mocks := mocks }
  | .construct | .set .. => Option.none

end Scopes

/-- The program opens and closes scopes with mocks and makes calls.  The object that was
there before them stays. -/
def Scoped (s : World W) : Event W → Prop
  | .inject _ | .calling _ => True
  | .destroy => 2 ≤ s.callers.length
  | .construct | .set .. => False

/-- **The saved pointers are the stack**: the static pointer and the members `m_ptr_oldObj`,
one after the other, are the mocks of the open scopes, the real worker, and the null pointer
of the default-constructed object. -/
structure Represents (real : W) (s : World W) (a : Scopes W) : Prop where
  pointers : s.workerObj :: s.callers.map Caller.oldObj = a.mocks.map some ++ [some real, none]
  reached : s.dispatched = a.reached.map some

variable {a : Scopes W}

theorem Represents.workerObj (h : Represents real s a) :
    s.workerObj = some (a.innermost real) := by
  have hp := h.pointers
  unfold Scopes.innermost
  rcases hm : a.mocks with _ | ⟨m, mocks⟩
  · rw [hm] at hp
    exact (List.cons.inj hp).1
  · rw [hm] at hp
    exact (List.cons.inj hp).1

/-- **Each step of the program is a step of the stack.** -/
theorem represents_step {e : Event W} (h : Represents real s a)
    (hs : Guarded (Fires step) Scoped s e s') :
    ∃ a', Scopes.step real a e = some a' ∧ Represents real s' a' := by
  obtain ⟨hstep, hscoped⟩ := hs
  cases e with
  | inject mock =>
    cases hstep
    exact ⟨_, rfl, congrArg (some mock :: ·) h.pointers, h.reached⟩
  | calling k =>
    obtain ⟨-, hstep⟩ := Option.ite_none_right_eq_some.mp hstep
    cases hstep
    refine ⟨_, rfl, h.pointers, ?_⟩
    show s.workerObj :: s.dispatched = _
    rw [h.workerObj, h.reached]
    rfl
  | destroy =>
    obtain ⟨c, hc, hworker, hdisp⟩ := step_destroy hstep
    have hp := h.pointers
    have hlen := congrArg List.length hp
    have hscoped : 2 ≤ s.callers.length := hscoped
    rcases hm : a.mocks with _ | ⟨m, mocks⟩
    · rw [hm] at hlen
      simp only [List.length_cons, List.length_map, List.map_nil, List.nil_append,
        List.length_nil] at hlen
      omega
    · refine ⟨{ a with mocks := mocks }, by simp [Scopes.step, hm], ?_, hdisp.trans h.reached⟩
      rw [hc, hm] at hp
      rw [hworker]
      exact (List.cons.inj hp).2
  | construct => exact hscoped.elim
  | set k real => exact hscoped.elim

/-- Each run of the program is a run of the stack. -/
theorem represents_run (h : Represents real s₀ a)
    (hrun : Run (Guarded (Fires step) Scoped) s₀ es s) :
    ∃ a', replay (Scopes.step real) a es = some a' ∧ Represents real s a' := by
  induction hrun generalizing a with
  | nil s => exact ⟨a, rfl, h⟩
  | cons hs hr ih =>
    obtain ⟨m, hm, hrep⟩ := represents_step h hs
    obtain ⟨a', ha', hrep'⟩ := ih hrep
    exact ⟨a', by simp only [replay, hm, Option.bind_some, ha'], hrep'⟩

/-- **Injection is a stack.**  In every program that constructs one default `Caller`, sets
the real worker, and then opens and closes scopes with mocks to any depth: every call, on
whichever object, reaches the mock of the innermost open scope, or the real worker; and a
scope that is closed leaves the static pointer as it was. -/
theorem injection_is_stack (h0 : replay step initial [.construct, .set 0 real] = some s₀)
    (hrun : Run (Guarded (Fires step) Scoped) s₀ es s) :
    (∃ a, replay (Scopes.step real) .none es = some a ∧
      s.workerObj = some (a.innermost real) ∧ s.dispatched = a.reached.map some) ∧
    ∀ mock inner s', Lives (.inject mock) s inner s' → s'.workerObj = s.workerObj := by
  have hstart : Represents real s₀ .none := by
    cases h0
    exact ⟨rfl, rfl⟩
  obtain ⟨a, ha, hrep⟩ := represents_run hstart hrun
  refine ⟨⟨a, ha, hrep.workerObj, hrep.reached⟩, fun mock inner s' hlife => ?_⟩
  apply hlife.workerObj
  intro opened hopened
  cases hopened
  rfl

instance Scoped.decidable (s : World W) : ∀ e, Decidable (Scoped s e)
  | .inject _ | .calling _ => .isTrue trivial
  | .destroy => inferInstanceAs (Decidable (2 ≤ s.callers.length))
  | .construct | .set .. => .isFalse id

/-- The real worker is set. -/
def begun : World ℕ := ⟨some 0, [⟨none⟩], []⟩

/-- Two scopes, one inside the other, and calls on all objects. -/
def nested : List (Event ℕ) :=
  [.calling 0, .inject 1, .calling 1, .inject 2, .calling 0, .calling 2, .destroy, .calling 0,
    .destroy, .calling 0]

theorem injection_is_stack_nested :
    let s := (replay (restrict step Scoped) begun nested).getD begun
    s.dispatched = [some 0, some 1, some 2, some 2, some 1, some 0] ∧
    ∃ a, replay (Scopes.step 0) .none nested = some a ∧ s.workerObj = some (a.innermost 0) := by
  intro s
  have hrun : Run (Guarded (Fires step) Scoped) begun nested s := run_guarded_of_replay rfl
  obtain ⟨⟨a, ha, hworker, -⟩, -⟩ := injection_is_stack rfl hrun
  exact ⟨rfl, a, ha, hworker⟩

/-! ## Default-constructed objects -/

/-- From `s` to `s'` the static pointer has not changed, and it is not null: `calling()` on
any live object goes to the same worker. -/
def Harmless (s s' : World W) : Prop := s'.workerObj = s.workerObj ∧ s'.workerObj ≠ none

/-- **No default-constructed object is harmless.**  Whatever the state it is constructed in,
and whatever happens while it lives, its destructor leaves a null pointer. -/
theorem default_not_harmless (h : Lives .construct s es s') : ¬ Harmless s s' := by
  have hnull : s'.workerObj = none := by
    apply h.workerObj
    intro opened hopened
    cases hopened
    rfl
  rintro ⟨-, hne⟩
  exact hne hnull

/-- A scope is opened and closed while the second default object lives. -/
theorem default_not_harmless_scope :
    ¬ Harmless begun ⟨none, [⟨none⟩], [some 1]⟩ := by
  have hinner : Run (Over (Fires step) World.callers 2) ⟨some 0, [⟨none⟩, ⟨none⟩], []⟩
      [.inject 1, .calling 0, .destroy] ⟨some 0, [⟨none⟩, ⟨none⟩], [some 1]⟩ :=
    .cons ⟨rfl, by decide⟩ (.cons ⟨rfl, by decide⟩ (.cons ⟨rfl, by decide⟩ (.nil _)))
  exact default_not_harmless ⟨_, _, rfl, hinner, rfl, rfl⟩

/-- The real worker is set, a second default object is constructed and destroyed, and the
first one calls through a null pointer. -/
theorem default_leaves_null :
    replay step initial [.construct, .set 0 0] = some begun ∧
    Lives .construct begun [] ⟨none, [⟨none⟩], []⟩ ∧ ¬ Harmless begun ⟨none, [⟨none⟩], []⟩ ∧
    step (⟨none, [⟨none⟩], []⟩ : World ℕ) (.calling 0) = some ⟨none, [⟨none⟩], [none]⟩ :=
  ⟨rfl, ⟨_, _, rfl, .nil _, rfl, rfl⟩, fun h => h.2 rfl, rfl⟩

end SimpleTests.MockCaller
