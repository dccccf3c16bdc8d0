import SimpleTests.TransitionRuns
import SimpleTests.SigpipeGuard
import Mathlib.Logic.Function.Basic

/-! # The guard in a process with many threads

Any number of threads run guards at the same time.  A step is one signal call of
one thread, so every other thread may move between two calls of a constructor
or destructor.  A step of a thread has three parts, each a function of its own:

* `Control.next` is the guard's code: from the place the thread has reached
  (`Phase`) up to and including its next call;
* `SigState.call` is what the call does to the signal state, of which the threads
  share the process-directed pending flag;
* `Log.note` is bookkeeping that no call reads.  The SIGPIPEs a thread generates for
  itself are numbered; `merged` and `delivered` record which of them the pending
  one stands for and for which the handler has run.

Outside of the guard's code a thread may generate SIGPIPEs for itself, change its
mask or `sigwait()` on its own.  A process-directed SIGPIPE may arrive at any time
(`Event.arrive`), and is delivered to any thread that does not block it.

`SigpipeRefinement` connects this to the single-thread guard: a body executed by
`exec` is a run of the thread's steps.
-/
namespace SimpleTests.Sigpipe
open Transition

/-- What may happen to one thread. -/
inductive Action
  /-- A write to a broken pipe, or `raise(SIGPIPE)`. -/
  | generate
  /-- A thread-directed SIGPIPE from elsewhere, as by `pthread_kill()`. -/
  | kill
  /-- The process-directed SIGPIPE is delivered to the thread. -/
  | deliver
  /-- `SIG_BLOCK` outside of any guard. -/
  | block
  /-- `SIG_UNBLOCK` outside of any guard. -/
  | unblock
  /-- `sigwait()` outside of any guard. -/
  | sigwait (l : Level)
  /-- The constructor up to its `sigpending()`. -/
  | ctorPending (uninit : Bool)
  /-- `SIG_BLOCK` in the constructor. -/
  | ctorBlock
  /-- The destructor is entered and looks at `m_sigpipe_pending`. -/
  | leave
  /-- `sigpending()` in the destructor's loop. -/
  | dtorPending
  /-- `sigwait()` in the destructor's loop. -/
  | dtorSigwait (l : Level)
  /-- `SIG_UNBLOCK` in the destructor. -/
  | dtorUnblock
  deriving DecidableEq

/-- The effect on the signal state; `none` where the call blocks, or where there is
nothing to deliver. -/
def SigState.call (s : SigState) : Action → Option SigState
  | .generate | .kill => some s.generate
  | .deliver => s.deliver
  | .block | .ctorBlock => some s.block
  | .unblock | .dtorUnblock => some s.unblock
  | .sigwait l | .dtorSigwait l => s.take l
  | .ctorPending _ | .leave | .dtorPending => some s

/-- The mask bit an action sets, if it sets it. -/
def Action.mask : Action → Option Bool
  | .block | .ctorBlock => some true
  | .unblock | .dtorUnblock => some false
  | _ => none

theorem blocked_call {s s' : SigState} {a : Action} (h : s.call a = some s') :
    s'.blocked = a.mask.getD s.blocked := by
  cases a with
  | generate | kill => cases h; simp [Action.mask]
  | deliver => exact (SigState.deliver_cases h).2.1
  | sigwait l | dtorSigwait l => exact (SigState.take_cases h).1
  | _ => cases h; rfl

/-- The places where a thread can stand between two steps. -/
inductive Phase
  /-- outside of the guard's code -/
  | body
  /-- in a constructor that found nothing pending, before `SIG_BLOCK` -/
  | ctorBlock
  /-- in a destructor, before the `sigpending()` of its loop -/
  | dtorPending
  /-- in a destructor, before `sigwait()` -/
  | dtorSigwait
  /-- in a destructor that has left its loop, before `SIG_UNBLOCK` -/
  | dtorUnblock
  deriving DecidableEq

/-- A thread's place in the code and its live guards, innermost first.  A guard is
live from the first call of its constructor to the last one of its destructor. -/
structure Control where
  phase : Phase
  guards : List Guard
  deriving DecidableEq

/-- The guard's code, one call at a time; `s` is the signal state before the call,
and `none` means that the code does not make this call here. -/
def Control.next (s : SigState) : Action → Control → Option Control
  | .kill, c | .deliver, c => some c
  | .generate, ⟨.body, gs⟩ | .block, ⟨.body, gs⟩ | .unblock, ⟨.body, gs⟩
  | .sigwait _, ⟨.body, gs⟩ => some ⟨.body, gs⟩
  | .ctorPending uninit, ⟨.body, gs⟩ =>
    if s.sigpending then some ⟨.body, ⟨true, uninit⟩ :: gs⟩
    else some ⟨.ctorBlock, ⟨false, uninit⟩ :: gs⟩
  | .ctorBlock, ⟨.ctorBlock, g :: gs⟩ =>
    some ⟨.body, { g with sigpipeUnblock := !s.blocked } :: gs⟩
  | .leave, ⟨.body, g :: gs⟩ =>
    if g.sigpipePending then some ⟨.body, gs⟩ else some ⟨.dtorPending, g :: gs⟩
  | .dtorPending, ⟨.dtorPending, g :: gs⟩ =>
    if s.sigpending then some ⟨.dtorSigwait, g :: gs⟩
    else if g.sigpipeUnblock then some ⟨.dtorUnblock, g :: gs⟩
    else some ⟨.body, gs⟩
  | .dtorSigwait _, ⟨.dtorSigwait, gs⟩ => some ⟨.dtorPending, gs⟩
  | .dtorUnblock, ⟨.dtorUnblock, _ :: gs⟩ => some ⟨.body, gs⟩
  | _, _ => none

/-- The steps of the guard's code, branch by branch. -/
inductive Control.Turn (s : SigState) : Action → Control → Control → Prop
  | signal {a : Action} (ha : a = .kill ∨ a = .deliver) (c : Control) : Turn s a c c
  | own {a : Action} (ha : a = .generate ∨ a = .block ∨ a = .unblock ∨ ∃ l, a = .sigwait l)
      (gs : List Guard) : Turn s a ⟨.body, gs⟩ ⟨.body, gs⟩
  | ctorFound (uninit : Bool) (gs : List Guard) (hp : s.sigpending = true) :
      Turn s (.ctorPending uninit) ⟨.body, gs⟩ ⟨.body, ⟨true, uninit⟩ :: gs⟩
  | ctorClear (uninit : Bool) (gs : List Guard) (hp : s.sigpending = false) :
      Turn s (.ctorPending uninit) ⟨.body, gs⟩ ⟨.ctorBlock, ⟨false, uninit⟩ :: gs⟩
  | ctorBlock (g : Guard) (gs : List Guard) :
      Turn s .ctorBlock ⟨.ctorBlock, g :: gs⟩ ⟨.body, { g with sigpipeUnblock := !s.blocked } :: gs⟩
  | leaveFound (g : Guard) (gs : List Guard) (hg : g.sigpipePending = true) :
      Turn s .leave ⟨.body, g :: gs⟩ ⟨.body, gs⟩
  | leave (g : Guard) (gs : List Guard) (hg : g.sigpipePending = false) :
      Turn s .leave ⟨.body, g :: gs⟩ ⟨.dtorPending, g :: gs⟩
  | found (g : Guard) (gs : List Guard) (hp : s.sigpending = true) :
      Turn s .dtorPending ⟨.dtorPending, g :: gs⟩ ⟨.dtorSigwait, g :: gs⟩
  | clear (g : Guard) (gs : List Guard) (hp : s.sigpending = false) (hg : g.sigpipeUnblock = true) :
      Turn s .dtorPending ⟨.dtorPending, g :: gs⟩ ⟨.dtorUnblock, g :: gs⟩
  | done (g : Guard) (gs : List Guard) (hp : s.sigpending = false) (hg : g.sigpipeUnblock = false) :
      Turn s .dtorPending ⟨.dtorPending, g :: gs⟩ ⟨.body, gs⟩
  | sigwait (l : Level) (gs : List Guard) :
      Turn s (.dtorSigwait l) ⟨.dtorSigwait, gs⟩ ⟨.dtorPending, gs⟩
  | unblock (g : Guard) (gs : List Guard) :
      Turn s .dtorUnblock ⟨.dtorUnblock, g :: gs⟩ ⟨.body, gs⟩

/-- **The code makes no other steps.** -/
theorem Control.turn_of_next {s : SigState} {a : Action} {c c' : Control}
    (h : c.next s a = some c') : Turn s a c c' := by
  obtain ⟨ph, gs⟩ := c
  cases a with
  | kill | deliver =>
    cases h
    exact .signal (by simp) _
  | generate | block | unblock | sigwait l =>
    cases ph <;> cases h
    exact .own (by simp) gs
  | ctorPending uninit =>
    cases ph <;> simp only [Control.next, reduceCtorEq] at h
    by_cases hp : s.sigpending = true
    · cases (if_pos hp).symm.trans h
      exact .ctorFound uninit gs hp
    · cases (if_neg hp).symm.trans h
      exact .ctorClear uninit gs (Bool.eq_false_iff.mpr hp)
  | ctorBlock =>
    cases ph <;> cases gs <;> cases h
    exact .ctorBlock _ _
  | leave =>
    cases ph <;> rcases gs with - | ⟨g, gs⟩ <;> simp only [Control.next, reduceCtorEq] at h
    by_cases hg : g.sigpipePending = true
    · cases (if_pos hg).symm.trans h
      exact .leaveFound g gs hg
    · cases (if_neg hg).symm.trans h
      exact .leave g gs (Bool.eq_false_iff.mpr hg)
  | dtorPending =>
    cases ph <;> rcases gs with - | ⟨g, gs⟩ <;> simp only [Control.next, reduceCtorEq] at h
    by_cases hp : s.sigpending = true
    · cases (if_pos hp).symm.trans h
      exact .found g gs hp
    have hclear : s.sigpending = false := Bool.eq_false_iff.mpr hp
    rw [if_neg hp] at h
    by_cases hg : g.sigpipeUnblock = true
    · cases (if_pos hg).symm.trans h
      exact .clear g gs hclear hg
    · cases (if_neg hg).symm.trans h
      exact .done g gs hclear (Bool.eq_false_iff.mpr hg)
  | dtorSigwait l =>
    cases ph <;> cases h
    exact .sigwait l gs
  | dtorUnblock =>
    cases ph <;> cases gs <;> cases h
    exact .unblock _ _

/-- Which of its own SIGPIPEs a thread has generated, and what became of them. -/
structure Log where
  /-- How many the thread has generated; they are numbered from 0. -/
  generated : ℕ
  /-- The numbers of those that the pending SIGPIPE stands for. -/
  merged : List ℕ
  /-- The numbers of those for which the handler has run. -/
  delivered : List ℕ
  deriving DecidableEq

/-- The bookkeeping of one step; `s` is the signal state before it. -/
def Log.note (s : SigState) (g : Log) : Action → Log
  | .generate =>
    if s.blocked then ⟨g.generated + 1, g.generated :: g.merged, g.delivered⟩
    else ⟨g.generated + 1, g.merged, g.generated :: g.delivered⟩
  | .sigwait .thread | .dtorSigwait .thread => ⟨g.generated, [], g.delivered⟩
  | .unblock | .dtorUnblock => ⟨g.generated, [], g.merged ++ g.delivered⟩
  | _ => g

/-- A thread. -/
structure Thread where
  own : ThreadSig
  control : Control
  log : Log
  deriving DecidableEq

/-- What the thread's calls act on, `p` being the process-directed flag. -/
def Thread.sig (x : Thread) (p : Bool) : SigState := { x.own with processPending := p }

@[simp] theorem Thread.sig_blocked (x : Thread) (p : Bool) :
    (x.sig p).blocked = x.own.blocked := rfl
@[simp] theorem Thread.sig_pending (x : Thread) (p : Bool) :
    (x.sig p).pending = x.own.pending := rfl
@[simp] theorem Thread.sig_processPending (x : Thread) (p : Bool) :
    (x.sig p).processPending = p := rfl

/-- One step of the thread, and the process-directed flag it leaves. -/
def Thread.act (x : Thread) (p : Bool) (a : Action) : Option (Thread × Bool) :=
  (x.control.next (x.sig p) a).bind fun c => ((x.sig p).call a).map fun s =>
    (⟨s.toThreadSig, c, x.log.note (x.sig p) a⟩, s.processPending)

/-- All threads, and the process-directed pending flag. -/
structure State (T : Type*) where
  thread : T → Thread
  process : Bool

/-- What may happen in the process. -/
inductive Event (T : Type*)
  /-- A process-directed SIGPIPE arrives. -/
  | arrive
  | act (t : T) (a : Action)
  deriving DecidableEq

variable {T : Type*} [DecidableEq T]

/-- One step of the process. -/
def step (s : State T) : Event T → Option (State T)
  | .arrive => some { s with process := true }
  | .act t a => ((s.thread t).act s.process a).map fun r =>
      { thread := Function.update s.thread t r.1, process := r.2 }

/-- At the start no thread has a guard or has generated a SIGPIPE.  Masks and
pending flags are arbitrary. -/
def Initial (s : State T) : Prop :=
  ∀ t, (s.thread t).control = ⟨.body, []⟩ ∧ (s.thread t).log = ⟨0, [], []⟩

/-- Threads that have not started a guard yet, with SIGPIPE unblocked and nothing
pending. -/
def start : State T where
  thread _ := ⟨⟨false, false, 0, ThreadSig.pending_blocked_off false⟩, ⟨.body, []⟩, ⟨0, [], []⟩⟩
  process := false

omit [DecidableEq T] in
theorem initial_start : Initial (start : State T) := fun _ => ⟨rfl, rfl⟩

/-! ## Steps seen by one thread -/

theorem act_iff {x y : Thread} {p q : Bool} {a : Action} :
    x.act p a = some (y, q) ↔
      x.control.next (x.sig p) a = some y.control ∧ (x.sig p).call a = some (y.sig q) ∧
      y.log = x.log.note (x.sig p) a := by
  simp only [Thread.act, Option.bind_eq_some_iff, Option.map_eq_some_iff, Prod.mk.injEq]
  constructor
  · rintro ⟨c, hc, s, hs, rfl, rfl⟩
    exact ⟨hc, hs, rfl⟩
  · rintro ⟨hc, hs, hl⟩
    exact ⟨_, hc, _, hs, by cases y; simp_all [Thread.sig], rfl⟩

section Step
variable {s s' : State T} {e : Event T} {t : T} {a : Action}

theorem step_act (h : step s (.act t a) = some s') :
    (s.thread t).act s.process a = some (s'.thread t, s'.process) ∧
    ∀ u, u ≠ t → s'.thread u = s.thread u := by
  obtain ⟨r, hr, rfl⟩ := Option.map_eq_some_iff.mp h
  exact ⟨by simpa using hr, fun u hu => by simp [hu]⟩

/-- In one step a thread stays as it is or takes one of its own actions. -/
theorem step_thread (h : step s e = some s') (t : T) :
    s'.thread t = s.thread t ∨
    ∃ a, e = .act t a ∧ (s.thread t).act s.process a = some (s'.thread t, s'.process) := by
  cases e with
  | arrive => cases h; exact Or.inl rfl
  | act u a =>
    obtain ⟨hact, hother⟩ := step_act h
    by_cases htu : t = u
    · subst htu; exact Or.inr ⟨a, rfl, hact⟩
    · exact Or.inl (hother t htu)

end Step

/-! ## What becomes of a thread's own SIGPIPEs -/

/-- The actions that clear the thread-directed pending flag. -/
def Action.clears : Action → Bool
  | .sigwait .thread | .dtorSigwait .thread | .unblock | .dtorUnblock => true
  | _ => false

/-- A thread-directed SIGPIPE stays pending unless it is accepted or SIGPIPE is
unblocked. -/
theorem pending_call {s s' : SigState} {a : Action} (h : s.call a = some s')
    (ha : a.clears = false) (hp : s.pending = true) : s'.pending = true := by
  have hb : s.blocked = true := s.pending_blocked hp
  cases a with
  | generate | kill => cases h; exact SigState.pending_generate hb
  | deliver => exact absurd (hb.symm.trans (SigState.deliver_cases h).1) (by simp)
  | sigwait l | dtorSigwait l =>
    obtain ⟨-, ⟨rfl, -⟩ | ⟨-, -, -, hpend⟩⟩ := SigState.take_cases h
    · cases ha
    · exact hpend.trans hp
  | unblock | dtorUnblock => cases ha
  | _ => cases h; exact hp

/-- What one step does to the log: the next number is merged or handled, the merged
ones are forgotten or delivered, or nothing happens. -/
theorem Log.note_cases (s : SigState) (g : Log) (a : Action) :
    (a = .generate ∧ s.blocked = true ∧
      g.note s a = ⟨g.generated + 1, g.generated :: g.merged, g.delivered⟩) ∨
    (a = .generate ∧ s.blocked = false ∧
      g.note s a = ⟨g.generated + 1, g.merged, g.generated :: g.delivered⟩) ∨
    g.note s a = ⟨g.generated, [], g.delivered⟩ ∨
    ((a = .unblock ∨ a = .dtorUnblock) ∧
      g.note s a = ⟨g.generated, [], g.merged ++ g.delivered⟩) ∨
    (a.clears = false ∧ g.note s a = g) := by
  cases a with
  | generate => cases hb : s.blocked <;> simp [note, hb]
  | sigwait l | dtorSigwait l => cases l <;> simp [note, Action.clears]
  | _ => simp [note, Action.clears]

/-- The bookkeeping is consistent: numbers are merged in a pending SIGPIPE only, and
all of them have been handed out. -/
structure Numbered (x : Thread) : Prop where
  merged_nil : x.own.pending = false → x.log.merged = []
  merged_lt : ∀ k ∈ x.log.merged, k < x.log.generated
  delivered_lt : ∀ k ∈ x.log.delivered, k < x.log.generated

theorem numbered_act {x y : Thread} {p q : Bool} {a : Action} (hx : Numbered x)
    (h : x.act p a = some (y, q)) : Numbered y := by
  obtain ⟨-, hs, hl⟩ := act_iff.mp h
  have later : ∀ ks : List ℕ, (∀ k ∈ ks, k < x.log.generated) →
      ∀ k ∈ ks, k < x.log.generated + 1 := fun ks hks k hk => Nat.lt_succ_of_lt (hks k hk)
  rcases x.log.note_cases (x.sig p) a with
    ⟨rfl, hb, he⟩ | ⟨rfl, hb, he⟩ | he | ⟨-, he⟩ | ⟨ha, he⟩ <;> rw [he] at hl
  · have hp : (y.sig q).pending = true :=
      Option.some.inj hs ▸ SigState.pending_generate hb
    have hp : y.own.pending = true := hp
    exact ⟨by simp [hp], by simpa [hl] using later _ hx.merged_lt,
      by simpa [hl] using later _ hx.delivered_lt⟩
  · have hn : x.log.merged = [] := hx.merged_nil (SigState.pending_eq_false (s := x.sig p) hb)
    exact ⟨by simp [hl, hn], by simp [hl, hn], by simpa [hl] using later _ hx.delivered_lt⟩
  · exact ⟨by simp [hl], by simp [hl], by simpa [hl] using hx.delivered_lt⟩
  · refine ⟨by simp [hl], by simp [hl], ?_⟩
    simp only [hl, List.mem_append]
    exact fun k hk => hk.elim (hx.merged_lt k) (hx.delivered_lt k)
  · refine ⟨fun hp => ?_, by simpa [hl] using hx.merged_lt, by simpa [hl] using hx.delivered_lt⟩
    rw [hl]
    apply hx.merged_nil
    cases hxp : x.own.pending with
    | false => rfl
    | true =>
      have hyp : y.own.pending = true := pending_call hs ha hxp
      exact absurd hyp (by simp [hp])

theorem numbered_of_reachable {s : State T} (h : Reachable (Fires step) Initial s) (t : T) :
    Numbered (s.thread t) := by
  refine h.invariant (I := fun s => ∀ t, Numbered (s.thread t)) ?_ ?_ t
  · intro s hs t
    have hl := (hs t).2
    exact ⟨by simp [hl], by simp [hl], by simp [hl]⟩
  · intro s e s' hs he t
    rcases step_thread he t with hx | ⟨a, -, hact⟩
    · exact hx ▸ hs t
    · exact numbered_act (hs t) hact

end SimpleTests.Sigpipe
