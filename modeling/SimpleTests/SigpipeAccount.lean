import SimpleTests.SigpipeMask
import SimpleTests.BoundedWork

/-! # For which SIGPIPEs the handler runs

A thread that leaves its mask to its guards runs its handler for each SIGPIPE that comes to it
while no guard of its own is alive, and for none that is sent to it, or to the process, while one
is (`handled_outside_guards`).  One window remains: what is sent between the last `sigpending()` of
the destructor that unblocks and its `SIG_UNBLOCK` is delivered by the latter.

The count goes through with `Thread.waiting`, the SIGPIPEs that the coming `SIG_UNBLOCK` is going
to deliver: there are none right behind that `sigpending()`, which has found nothing.
-/
namespace SimpleTests.Sigpipe
open Transition

/-- The action makes the handler run, if SIGPIPE is not blocked. -/
def Action.delivers : Action → Bool
  | .generate | .kill | .deliver => true
  | _ => false

/-- What the coming `SIG_UNBLOCK` of a destructor is going to deliver. -/
def Thread.waiting (x : Thread) (p : Bool) : ℕ :=
  if x.control.phase = .dtorUnblock then x.own.pending.toNat + p.toNat else 0

/-- 1 if the action is a SIGPIPE that comes to the thread while none of its guards is alive; the
thread has started with the mask `b`. -/
def Thread.exposed (b : Bool) (x : Thread) (a : Action) : ℕ :=
  if a.delivers ∧ covered b x.control.built = false then 1 else 0

/-- 1 if the action is a SIGPIPE that is sent to the thread when it is about to unblock. -/
def Thread.late (x : Thread) (a : Action) : ℕ :=
  if a = .kill ∧ x.control.phase = .dtorUnblock then 1 else 0

section Call
variable {s s' : SigState} {a : Action}

/-- What is not blocked is handled, and what is blocked is not. -/
theorem handled_delivers (ha : a.delivers = true) (h : s.call a = some s') :
    s'.handled = s.handled + (!s.blocked).toNat := by
  cases a with
  | generate | kill =>
    cases h
    cases hb : s.blocked <;> simp [SigState.generate, hb]
  | deliver =>
    obtain ⟨hcond, hs⟩ := Option.ite_none_right_eq_some.mp h
    simp only [Bool.and_eq_true, Bool.not_eq_true'] at hcond
    cases hs
    simp [hcond.1]
  | _ => cases ha

/-- Of the other actions only the two that unblock make the handler run. -/
theorem handled_of_not_delivers (ha : a.delivers = false) (hmask : a.mask ≠ some false)
    (h : s.call a = some s') : s'.handled = s.handled := by
  cases a with
  | generate | kill | deliver => cases ha
  | unblock | dtorUnblock => exact absurd rfl hmask
  | sigwait l | dtorSigwait l =>
    cases l <;>
    · obtain ⟨-, hs⟩ := Option.ite_none_right_eq_some.mp h
      cases hs
      rfl
  | _ =>
    cases h
    rfl

/-- The calls of a thread make no process-directed SIGPIPE. -/
theorem processPending_call_le (h : s.call a = some s') :
    s'.processPending.toNat ≤ s.processPending.toNat := by
  cases a with
  | generate | kill =>
    cases h
    simp
  | deliver => simp [(SigState.deliver_cases h).2.2.2]
  | sigwait l | dtorSigwait l =>
    obtain ⟨-, ⟨-, -, -, hp⟩ | ⟨-, -, hp, -⟩⟩ := SigState.take_cases h <;> simp [hp]
  | unblock | dtorUnblock =>
    cases h
    exact Nat.zero_le _
  | _ =>
    cases h
    exact Nat.le_refl _

end Call

/-! ## One step -/

section Turn
variable {s : SigState} {a : Action} {c c' : Control}

/-- A thread stays where it is when a SIGPIPE comes to it, and generates one itself only outside
of the guard's code. -/
theorem Control.Turn.of_delivers (h : Turn s a c c') (ha : a.delivers = true) :
    c' = c ∧ (a = .generate → c.phase = .body) := by
  cases h with
  | signal hsig =>
    refine ⟨rfl, ?_⟩
    rintro rfl
    simp at hsig
  | own hown gs => exact ⟨rfl, fun _ => rfl⟩
  | _ => cases ha

/-- Only a `sigpending()` that finds nothing leads to `SIG_UNBLOCK`. -/
theorem Control.Turn.to_unblock (h : Turn s a c c') (ha : a.delivers = false)
    (hphase : c'.phase = .dtorUnblock) : a = .dtorPending ∧ s.sigpending = false := by
  cases h with
  | signal hsig => rcases hsig with rfl | rfl <;> cases ha
  | clear g gs hp hg => exact ⟨rfl, hp⟩
  | _ => cases hphase

theorem Control.Turn.of_unblock (h : Turn s .dtorUnblock c c') :
    c.phase = .dtorUnblock ∧ c'.phase = .body := by
  cases h with
  | signal hsig => simp at hsig
  | own hown => simp at hown
  | unblock g gs => exact ⟨rfl, rfl⟩

end Turn

section Act
variable {b : Bool} {x y : Thread} {p q : Bool} {a : Action}

theorem Thread.exposed_of_delivers (hx : Held b x) (ha : a.delivers = true) :
    x.exposed b a = (!x.own.blocked).toNat := by
  rw [exposed, ha, ← hx.blocked]
  cases x.own.blocked <;> simp

theorem Thread.exposed_of_not_delivers (ha : a.delivers = false) : x.exposed b a = 0 := by
  rw [exposed, if_neg (by simp [ha])]

theorem Thread.waiting_of_phase (h : x.control.phase ≠ .dtorUnblock) : x.waiting p = 0 := if_neg h

/-- A SIGPIPE that comes to the thread waits for a `SIG_UNBLOCK` only if it is late. -/
theorem waiting_delivers (ha : a.delivers = true) (h : x.act p a = some (y, q)) :
    y.waiting q ≤ x.waiting p + x.late a := by
  obtain ⟨hc, hs, -⟩ := act_iff.mp h
  obtain ⟨hsame, hbody⟩ := (Control.turn_of_next hc).of_delivers ha
  have hq : q.toNat ≤ p.toNat := processPending_call_le hs
  by_cases hphase : x.control.phase = .dtorUnblock
  · have hpending : y.own.pending.toNat ≤ x.own.pending.toNat + x.late a := by
      cases a with
      | generate => exact absurd (hphase.symm.trans (hbody rfl)) (by simp)
      | kill =>
        rw [Thread.late, if_pos ⟨rfl, hphase⟩]
        exact (Bool.toNat_le _).trans (Nat.le_add_left _ _)
      | deliver =>
        have hkeep : y.own.pending = x.own.pending := (SigState.deliver_cases hs).2.2.1
        rw [hkeep]
        exact Nat.le_add_right _ _
      | _ => cases ha
    rw [Thread.waiting, Thread.waiting, if_pos hphase, if_pos (by rw [hsame, hphase])]
    omega
  · rw [Thread.waiting_of_phase (by rwa [hsame])]
    exact Nat.zero_le _

/-- Right after the last `sigpending()` nothing waits. -/
theorem waiting_not_delivers (hy : Held b y) (ha : a.delivers = false)
    (h : x.act p a = some (y, q)) : y.waiting q = 0 := by
  obtain ⟨hc, hs, -⟩ := act_iff.mp h
  by_cases hphase : y.control.phase = .dtorUnblock
  · obtain ⟨rfl, hclear⟩ := (Control.turn_of_next hc).to_unblock ha hphase
    have hblocked : y.own.blocked = true := by
      rcases hy.placed with hbody | ⟨g, gs, hguards, -⟩
      · exact absurd (hphase.symm.trans hbody) (by simp)
      · rw [hy.blocked, Control.built, if_neg (by simp [hphase]), hguards]
        exact covered_cons
    have hclear : (y.sig q).sigpending = false := Option.some.inj hs ▸ hclear
    obtain ⟨hpending, hq⟩ : y.own.pending = false ∧ q = false := by
      simpa [SigState.sigpending, hblocked] using hclear
    rw [Thread.waiting, hpending, hq]
    simp
  · exact Thread.waiting_of_phase hphase

/-- **One step of the thread**: the handler runs for what comes to the thread outside of its
guards, and for what waits at a `SIG_UNBLOCK`, which has come late. -/
theorem account_act (hx : Held b x) (h : x.act p a = some (y, q))
    (hmask : a ≠ .block ∧ a ≠ .unblock) :
    x.own.handled + x.exposed b a ≤ y.own.handled ∧
      y.own.handled + y.waiting q ≤ x.own.handled + x.waiting p + x.exposed b a + x.late a := by
  obtain ⟨hc, hs, -⟩ := act_iff.mp h
  cases ha : a.delivers with
  | true =>
    have hhandled : y.own.handled = x.own.handled + x.exposed b a := by
      rw [Thread.exposed_of_delivers hx ha]
      exact handled_delivers ha hs
    have hwaiting := waiting_delivers ha h
    omega
  | false =>
    rw [Thread.exposed_of_not_delivers ha, waiting_not_delivers (held_act hx h hmask) ha h]
    by_cases hunblock : a = .dtorUnblock
    · subst hunblock
      have hphase := (Control.turn_of_next hc).of_unblock.1
      have hhandled : y.own.handled = x.own.handled + x.own.pending.toNat + p.toNat :=
        congrArg (·.handled) (Option.some.inj hs).symm
      rw [Thread.waiting, if_pos hphase]
      omega
    · have hkeeps : a.mask ≠ some false := by
        cases a <;> simp_all [Action.mask]
      have hhandled : y.own.handled = x.own.handled := handled_of_not_delivers ha hkeeps hs
      omega

end Act

/-! ## In the process -/

variable {T : Type*} [DecidableEq T]

/-- 1 if the event is a SIGPIPE that comes to thread `t`, which has started with the mask `b`,
while none of its guards is alive. -/
def reaches (t : T) (b : Bool) (s : State T) : Event T → ℕ
  | .arrive => 0
  | .act u a => if u = t then (s.thread t).exposed b a else 0

/-- 1 if the event is a SIGPIPE that is sent to thread `t` or to the process when the thread is
about to unblock. -/
def late (t : T) (s : State T) : Event T → ℕ
  | .arrive => if (s.thread t).control.phase = .dtorUnblock then 1 else 0
  | .act u a => if u = t then (s.thread t).late a else 0

/-- **One step of the process**, seen by thread `t`. -/
theorem account_step {t : T} {b : Bool} {s s' : State T} {e : Event T}
    (hs : Held b (s.thread t)) (h : Guarded (Fires step) (LeavesMask t) s e s') :
    (s.thread t).own.handled + reaches t b s e ≤ (s'.thread t).own.handled ∧
      (s'.thread t).own.handled + (s'.thread t).waiting s'.process ≤
        (s.thread t).own.handled + (s.thread t).waiting s.process + reaches t b s e + late t s e := by
  obtain ⟨hstep, hblock, hunblock⟩ := h
  cases e with
  | arrive =>
    cases hstep
    refine ⟨Nat.le_refl _, ?_⟩
    simp only [reaches, late, Thread.waiting]
    split
    · simp only [Bool.toNat_true]
      omega
    · exact Nat.le_refl _
  | act u a =>
    obtain ⟨hact, hother⟩ := step_act hstep
    by_cases hu : u = t
    · subst hu
      rw [reaches, late, if_pos rfl, if_pos rfl]
      exact account_act hs hact ⟨fun ha => hblock (by rw [ha]), fun ha => hunblock (by rw [ha])⟩
    · have hsame : s'.thread t = s.thread t := hother t (Ne.symm hu)
      have hprocess : s'.process.toNat ≤ s.process.toNat :=
        processPending_call_le (act_iff.mp hact).2.1
      have hwaiting : (s.thread t).waiting s'.process ≤ (s.thread t).waiting s.process := by
        rw [Thread.waiting, Thread.waiting]
        split <;> omega
      rw [reaches, late, if_neg hu, if_neg hu, hsame]
      omega

/-- **The handler runs outside of the guards only.**  Thread `t`, which leaves its mask to its
guards, has run its handler for each SIGPIPE that came to it while none of its guards was alive;
and for no others, but for those that were sent between the last `sigpending()` of a destructor
and its `SIG_UNBLOCK`. -/
theorem handled_outside_guards {t : T} {s₀ s : State T} {es : List (Event T)} (h₀ : Initial s₀)
    (hrun : Run (Guarded (Fires step) (LeavesMask t)) s₀ es s) :
    let b := (s₀.thread t).own.blocked
    (s₀.thread t).own.handled + tally step (reaches t b) s₀ es ≤ (s.thread t).own.handled ∧
      (s.thread t).own.handled ≤
        (s₀.thread t).own.handled + tally step (reaches t b) s₀ es + tally step (late t) s₀ es := by
  intro b
  have hheld : Held b (s₀.thread t) := held_initial h₀ t
  have hinv : ∀ s e s', Held b (s.thread t) → Guarded (Fires step) (LeavesMask t) s e s' →
      Held b (s'.thread t) := fun s e s' => held_step
  constructor
  · exact hrun.add_tally_le (fun s => (s.thread t).own.handled) hinv
      (fun s e s' hs h => (account_step hs h).1) hheld
  · have hwaiting : (s₀.thread t).waiting s₀.process = 0 :=
      Thread.waiting_of_phase (by rw [(h₀ t).1]; simp)
    have hupper := hrun.le_add_tally
      (fun s => (s.thread t).own.handled + (s.thread t).waiting s.process)
      (f := fun s e => reaches t b s e + late t s e) hinv
      (fun s e s' hs h => by
        have hstep := (account_step hs h).2
        omega) hheld
    rw [tally_add (hrun.mono fun _ _ _ h => h.1), hwaiting] at hupper
    omega

/-- Thread `false` generates a SIGPIPE before its guard and one under it, which the guard accepts,
and is sent one after the guard's last `sigpending()`.  The handler runs for the first and the
last. -/
theorem handled_outside_guards_late :
    let es : List (Event Bool) :=
      [.act false .generate, .act false (.ctorPending true), .act false .ctorBlock,
        .act false .generate, .act false .leave, .act false .dtorPending,
        .act false (.dtorSigwait .thread), .act false .dtorPending, .act false .kill,
        .act false .dtorUnblock]
    let s : State Bool := (replay (restrict step (LeavesMask false)) start es).getD start
    tally step (reaches false false) start es = 1 ∧ tally step (late false) start es = 1 ∧
      (s.thread false).own.handled = 2 ∧ 1 ≤ (s.thread false).own.handled ∧
      (s.thread false).own.handled ≤ 2 := by
  intro es s
  have hrun : Run (Guarded (Fires step) (LeavesMask false)) start es s :=
    run_guarded_of_replay rfl
  exact ⟨rfl, rfl, rfl, handled_outside_guards initial_start hrun⟩

end SimpleTests.Sigpipe
