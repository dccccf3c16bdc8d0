import SimpleTests.SigpipeThreads
import Mathlib.Data.Fintype.Defs

/-! # Whether `sigwait()` in a destructor can block

The destructor calls `sigwait()` behind a `sigpending()` that reported a SIGPIPE, "to
ensure that sigwait() never blocks".  Between the two calls the process-directed
SIGPIPE may go to another thread.  `Steals` is the step that does the harm: some
thread takes the process-directed SIGPIPE while another one stands before its
`sigwait()` with no SIGPIPE of its own pending.  A run is free of blocking
`sigwait()` calls exactly if it has no such step
(`always_waitSafe_iff_along_not_steals`).

A destructor that waits so is not helped by the other threads, whatever they do: it goes on
only if a further SIGPIPE is sent to its thread or to the process (`hangs_iff`).
-/
namespace SimpleTests.Sigpipe
open Transition

variable {T : Type*}

/-- Every thread that is about to call `sigwait()` in a destructor has a SIGPIPE
pending, in its own set or in the process's. -/
def WaitSafe (s : State T) : Prop :=
  ∀ t, (s.thread t).control.phase = .dtorSigwait →
    ((s.thread t).sig s.process).sigpending = true

/-- Whether the action takes the process-directed SIGPIPE away. -/
def SigState.takesProcess (s : SigState) : Action → Bool
  | .deliver | .sigwait .process | .dtorSigwait .process => true
  | .unblock | .dtorUnblock => s.processPending
  | _ => false

/-- A thread takes the process-directed SIGPIPE while another thread stands before its
destructor's `sigwait()` with no thread-directed SIGPIPE pending. -/
def Steals (s : State T) : Event T → Prop
  | .arrive => False
  | .act t a => ((s.thread t).sig s.process).takesProcess a = true ∧
      ∃ u, u ≠ t ∧ (s.thread u).control.phase = .dtorSigwait ∧
        (s.thread u).own.pending = false

instance [Fintype T] [DecidableEq T] (s : State T) : ∀ e, Decidable (Steals s e)
  | .arrive => .isFalse id
  | .act _ _ => inferInstanceAs (Decidable (_ ∧ ∃ _, _ ∧ _ ∧ _))

theorem waitSafe_of_initial {s : State T} (h : Initial s) : WaitSafe s := fun t ht => by
  rw [(h t).1] at ht; cases ht

section Call
variable {s s' : SigState} {a : Action}

theorem processPending_of_takes (h : s.call a = some s') (ha : s.takesProcess a = true) :
    s'.processPending = false := by
  cases a with
  | deliver => exact (SigState.deliver_cases h).2.2.2
  | sigwait l | dtorSigwait l =>
    obtain ⟨-, ⟨rfl, -⟩ | ⟨-, -, hproc, -⟩⟩ := SigState.take_cases h
    · cases ha
    · exact hproc
  | unblock | dtorUnblock => cases h; rfl
  | _ => cases ha

theorem processPending_of_not_takes (h : s.call a = some s') (ha : s.takesProcess a = false) :
    s'.processPending = s.processPending := by
  cases a with
  | generate | kill => cases h; simp
  | deliver => cases ha
  | sigwait l | dtorSigwait l =>
    obtain ⟨-, ⟨-, -, -, hproc⟩ | ⟨rfl, -⟩⟩ := SigState.take_cases h
    · exact hproc
    · cases ha
  | unblock | dtorUnblock => cases h; exact ha.symm
  | _ => cases h; rfl

/-- A thread gets to `sigwait()` only from a `sigpending()` that reported a SIGPIPE, and
stands there until it calls it. -/
theorem phase_next {c c' : Control} (h : c.next s a = some c') (hc : c'.phase = .dtorSigwait) :
    (a = .dtorPending ∧ s.sigpending = true) ∨
    ((a = .kill ∨ a = .deliver) ∧ c.phase = .dtorSigwait) := by
  cases Control.turn_of_next h with
  | signal ha => exact Or.inr ⟨ha, hc⟩
  | found g gs hp => exact Or.inl ⟨rfl, hp⟩
  | _ => cases hc

end Call

variable [DecidableEq T]

/-- **One step**: what makes a waiting thread unsafe is exactly a stolen SIGPIPE. -/
theorem waitSafe_step_iff (s : State T) (e : Event T) (s' : State T) (hs : WaitSafe s)
    (h : step s e = some s') : WaitSafe s' ↔ ¬ Steals s e := by
  cases e with
  | arrive =>
    cases h
    refine ⟨fun _ => id, fun _ t ht => ?_⟩
    have hpend := hs t ht
    simp only [SigState.sigpending, Bool.and_eq_true] at hpend ⊢
    exact ⟨hpend.1, Bool.or_true _⟩
  | act t a =>
    obtain ⟨hact, hother⟩ := step_act h
    obtain ⟨hc, hcall, -⟩ := act_iff.mp hact
    constructor
    · rintro hs' ⟨htake, u, hut, hu, hup⟩
      have hpend := hs' u (by rw [hother u hut]; exact hu)
      have hproc : s'.process = false := processPending_of_takes hcall htake
      simp [SigState.sigpending, hother u hut, hproc, hup] at hpend
    · intro hno u hu
      by_cases hut : u = t
      · subst hut
        rcases phase_next hc hu with ⟨rfl, hpend⟩ | ⟨hk, hph⟩
        · have hsig := Option.some.inj hcall
          rwa [hsig] at hpend
        · have hpend := hs u hph
          have hb : ((s.thread u).sig s.process).blocked = true := by
            simp only [SigState.sigpending, Bool.and_eq_true] at hpend; exact hpend.1
          rcases hk with rfl | rfl
          · exact Option.some.inj hcall ▸ SigState.sigpending_generate hb
          · exact absurd (hb.symm.trans (SigState.deliver_cases hcall).1) (by simp)
      · rw [hother u hut] at hu ⊢
        have hpend := hs u hu
        cases htake : ((s.thread t).sig s.process).takesProcess a with
        | false =>
          have hproc : s'.process = s.process := processPending_of_not_takes hcall htake
          rwa [hproc]
        | true =>
          have hown : (s.thread u).own.pending = true := by
            cases hp : (s.thread u).own.pending with
            | true => rfl
            | false => exact absurd ⟨htake, u, hut, hu, hp⟩ hno
          have hb : (s.thread u).own.blocked = true := (s.thread u).own.pending_blocked hown
          simp [SigState.sigpending, hown, hb]

/-- **Exactly the runs without a stolen SIGPIPE are free of blocking `sigwait()`
calls.**  In a run of any number of threads, every destructor that stands before its
`sigwait()` has a SIGPIPE pending, in every state of the run, if and only if no step
of the run takes the process-directed SIGPIPE from under such a destructor that has
no thread-directed one. -/
theorem always_waitSafe_iff_along_not_steals {s₀ s : State T} {es : List (Event T)}
    (hinit : Initial s₀) (hrun : Run (Fires step) s₀ es s) :
    Always step WaitSafe s₀ es ↔ Along step (fun s e => ¬ Steals s e) s₀ es :=
  always_iff_along waitSafe_step_iff hrun (waitSafe_of_initial hinit)

/-- The two threads of `sigwait_blocks`, of which only one has come to its destructor
when the process-directed SIGPIPE is taken. -/
theorem always_waitSafe_one_destructor :
    let es : List (Event Bool) :=
      [.act false (.ctorPending false), .act false .ctorBlock, .act true (.ctorPending false),
        .act true .ctorBlock, .arrive, .act false .leave, .act false .dtorPending,
        .act false (.dtorSigwait .process), .act true .leave, .act true .dtorPending,
        .act false .dtorPending]
    Always step WaitSafe start es := by
  intro es
  have hrun : Run (Fires step) start es ((replay step start es).getD start) :=
    run_of_replay rfl
  exact (always_waitSafe_iff_along_not_steals initial_start hrun).mpr (by decide)

/-- Two threads leave their scopes while a process-directed SIGPIPE is pending.  Both
destructors see it, one of them takes it, and the `sigwait()` of the other one has
nothing to wait for. -/
theorem sigwait_blocks :
    let es : List (Event Bool) :=
      [.act false (.ctorPending false), .act false .ctorBlock, .act true (.ctorPending false),
        .act true .ctorBlock, .arrive, .act false .leave, .act true .leave,
        .act false .dtorPending, .act true .dtorPending, .act false (.dtorSigwait .process)]
    let s : State Bool := (replay step start es).getD start
    Initial (start : State Bool) ∧ Run (Fires step) start es s ∧
    (s.thread true).control.phase = .dtorSigwait ∧
    ((s.thread true).sig s.process).sigwait = none ∧ ¬ WaitSafe s := by
  intro es s
  exact ⟨initial_start, run_of_replay rfl, rfl, rfl, fun h => by cases h true rfl⟩

/-! ## Where nothing is pending -/

theorem sigwait_eq_none_iff {s : SigState} :
    s.sigwait = none ↔ s.pending = false ∧ s.processPending = false := by
  cases hp : s.pending <;> cases hq : s.processPending <;>
    simp [SigState.sigwait, SigState.take, hp, hq]

/-- Nothing is sent to thread `u` or to the process. -/
def Unsent (u : T) (_ : State T) (e : Event T) : Prop := e ≠ .arrive ∧ e ≠ .act u .kill

instance (u : T) (s : State T) (e : Event T) : Decidable (Unsent u s e) :=
  inferInstanceAs (Decidable (_ ∧ _))

/-- The process-directed SIGPIPE does not come from a call. -/
theorem processPending_call {s s' : SigState} {a : Action} (h : s.call a = some s')
    (hq : s.processPending = false) : s'.processPending = false := by
  cases htake : s.takesProcess a with
  | true => exact processPending_of_takes h htake
  | false => exact (processPending_of_not_takes h htake).trans hq

/-- Nothing but a signal moves a thread that stands before `sigwait()` with nothing pending. -/
theorem eq_kill_of_stuck {x y : Thread} {p : Bool} {a : Action}
    (hx : x.control.phase = .dtorSigwait) (hown : x.own.pending = false)
    (h : x.act false a = some (y, p)) : a = .kill := by
  obtain ⟨hc, hcall, -⟩ := act_iff.mp h
  generalize x.control = c, y.control = c' at hx hc
  cases Control.turn_of_next hc with
  | signal ha =>
    rcases ha with rfl | rfl
    · rfl
    · simp [SigState.call, SigState.deliver] at hcall
  | sigwait l gs =>
    obtain ⟨-, ⟨-, hpend, -⟩ | ⟨-, hproc, -⟩⟩ := SigState.take_cases hcall
    · exact absurd (hown.symm.trans hpend) (by simp)
    · exact absurd hproc (by simp)
  | _ => cases hx

/-- While nothing is sent, a destructor with nothing pending stays before its `sigwait()`. -/
theorem thread_eq_of_unsent {u : T} {s s' : State T} {es : List (Event T)}
    (hu : (s.thread u).control.phase = .dtorSigwait) (hown : (s.thread u).own.pending = false)
    (hproc : s.process = false) (hrun : Run (Guarded (Fires step) (Unsent u)) s es s') :
    s'.thread u = s.thread u ∧ s'.process = false := by
  refine hrun.invariant (I := fun m => m.thread u = s.thread u ∧ m.process = false) ?_ ⟨rfl, hproc⟩
  rintro m e m' ⟨hm, hq⟩ ⟨he, harrive, hkill⟩
  cases e with
  | arrive => exact absurd rfl harrive
  | act t a =>
    obtain ⟨hact, hother⟩ := step_act he
    obtain ⟨-, hcall, -⟩ := act_iff.mp hact
    have hproc : m'.process = false := processPending_call hcall hq
    by_cases hut : u = t
    · subst hut
      rw [hm, hq] at hact
      exact absurd (eq_kill_of_stuck hu hown hact) fun ha => hkill (by rw [ha])
    · exact ⟨(hother u hut).trans hm, hproc⟩

/-- A destructor that has a SIGPIPE to wait for goes on. -/
theorem exists_step_of_sigwait {u : T} {s : State T} {l : Level} {σ : SigState}
    (hu : (s.thread u).control.phase = .dtorSigwait)
    (hσ : ((s.thread u).sig s.process).take l = some σ) :
    ∃ s', step s (.act u (.dtorSigwait l)) = some s' ∧
      (s'.thread u).control.phase = .dtorPending := by
  obtain ⟨gs, hc⟩ : ∃ gs, (s.thread u).control = ⟨.dtorSigwait, gs⟩ := ⟨_, by rw [← hu]⟩
  have hact : (s.thread u).act s.process (.dtorSigwait l) =
      some (⟨σ.toThreadSig, ⟨.dtorPending, gs⟩,
        (s.thread u).log.note ((s.thread u).sig s.process) (.dtorSigwait l)⟩, σ.processPending) :=
    act_iff.mpr ⟨by rw [hc]; rfl, hσ, rfl⟩
  exact ⟨_, Option.map_eq_some_iff.mpr ⟨_, hact, rfl⟩, by simp⟩

/-- **A destructor that has nothing to wait for is stuck**, and only such a one: it stands before
its `sigwait()` in every run, whatever the other threads do, until a SIGPIPE is sent to its
thread or to the process.  One that has something to wait for can go on at once. -/
theorem hangs_iff {u : T} {s : State T} (hu : (s.thread u).control.phase = .dtorSigwait) :
    ((∀ es s', Run (Guarded (Fires step) (Unsent u)) s es s' → s'.thread u = s.thread u) ↔
      ((s.thread u).sig s.process).sigwait = none) ∧
    (((s.thread u).sig s.process).sigwait ≠ none →
      ∃ l s', step s (.act u (.dtorSigwait l)) = some s' ∧
        (s'.thread u).control.phase = .dtorPending) := by
  have hgo : ((s.thread u).sig s.process).sigwait ≠ none →
      ∃ l s', step s (.act u (.dtorSigwait l)) = some s' ∧
        (s'.thread u).control.phase = .dtorPending := by
    intro hwait
    obtain ⟨σ, hσ⟩ := Option.ne_none_iff_exists'.mp hwait
    rcases Option.or_eq_some_iff.mp hσ with hthread | ⟨-, hprocess⟩
    · exact ⟨.thread, exists_step_of_sigwait hu hthread⟩
    · exact ⟨.process, exists_step_of_sigwait hu hprocess⟩
  refine ⟨⟨fun hstuck => ?_, fun hwait es s' hrun => ?_⟩, hgo⟩
  · by_contra hwait
    -- the call returns, and the thread is in its loop again
    obtain ⟨l, s', hstep, hphase⟩ := hgo hwait
    have hsame := hstuck _ s' (.single ⟨hstep, by simp, by simp⟩)
    rw [hsame, hu] at hphase
    cases hphase
  · obtain ⟨hown, hproc⟩ := sigwait_eq_none_iff.mp hwait
    exact (thread_eq_of_unsent hu hown hproc hrun).1

/-- The thread whose SIGPIPE has gone to another one, as in `sigwait_blocks`. -/
theorem hangs_of_stolen :
    let es : List (Event Bool) :=
      [.act false (.ctorPending false), .act false .ctorBlock, .act true (.ctorPending false),
        .act true .ctorBlock, .arrive, .act false .leave, .act true .leave,
        .act false .dtorPending, .act true .dtorPending, .act false (.dtorSigwait .process)]
    let s : State Bool := (replay step start es).getD start
    Run (Fires step) start es s ∧
      ∀ es' s', Run (Guarded (Fires step) (Unsent true)) s es' s' →
        s'.thread true = s.thread true := by
  intro es s
  exact ⟨run_of_replay rfl, (hangs_iff rfl).1.mpr rfl⟩

end SimpleTests.Sigpipe
