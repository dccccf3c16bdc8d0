import SimpleTests.SelectServer
import Mathlib.Algebra.GroupWithZero.Nat

/-! # The timeout of the `select()` server

The comments of `main()` say that each `select()` waits 3 minutes, and that the program
ends if there was no activity for 3 minutes.  `timeout` is set once, before the loop,
and `select()` overwrites it with the time not slept.  So the rounds share one window of
3 minutes: what a call gets is what the calls before it have left (`Chained`).

`keepsTimeout_iff` is what follows for every run: the promise is kept exactly as long as
no `select()` but the last one has slept at all.
-/
namespace SimpleTests.Sockets
open Transition FdSet

variable {s s' : Server} {e : Event}

/-- Three minutes, in microseconds. -/
def window : ℕ := (⟨3 * 60, 0⟩ : Timeval).micros

/-- The `select()` calls of a record, most recent first. -/
def selects (calls : List Call) : List SelectCall :=
  calls.filterMap fun
    | .select c => some c
    | _ => none

namespace SelectCall

/-- No descriptor was ready in time. -/
def TimedOut (c : SelectCall) : Prop := ∃ ready, c.result = .ok ready ∧ ready.bits.card = 0

/-- Some descriptor was ready. -/
def Ready (c : SelectCall) : Prop := ∃ ready, c.result = .ok ready ∧ ready.bits.card ≠ 0

end SelectCall

/-- **What the comments promise**: every call has the full window, and one times out only
if all activity is a window ago. -/
def KeepsTimeout (cs : List SelectCall) : Prop :=
  (∀ c ∈ cs, c.timeout = window) ∧
    cs.Pairwise fun c earlier => c.TimedOut → earlier.Ready → earlier.returned + window ≤ c.returned

/-! ## What the calls leave for each other -/

/-- The time slept in all the calls. -/
def totalSlept (cs : List SelectCall) : ℕ := (cs.map SelectCall.slept).sum

/-- Every call got what the calls before it left of the window. -/
def Chained : List SelectCall → Prop
  | [] => True
  | c :: earlier => c.timeout = window - totalSlept earlier ∧ Chained earlier

theorem totalSlept_eq_zero {cs : List SelectCall} :
    totalSlept cs = 0 ↔ ∀ c ∈ cs, c.slept = 0 := by
  induction cs with
  | nil => simp [totalSlept]
  | cons c cs ih =>
    rw [List.forall_mem_cons, ← ih]
    show c.slept + totalSlept cs = 0 ↔ _
    omega

theorem Chained.full {cs : List SelectCall} (h : Chained cs) (hslept : ∀ c ∈ cs, c.slept = 0) :
    ∀ c ∈ cs, c.timeout = window := by
  induction cs with
  | nil => simp
  | cons c earlier ih =>
    obtain ⟨hc, hearlier⟩ := h
    obtain ⟨-, hslept⟩ := List.forall_mem_cons.mp hslept
    refine List.forall_mem_cons.mpr ⟨?_, ih hearlier hslept⟩
    rw [hc, totalSlept_eq_zero.mpr hslept]
    rfl

/-- All calls had the full window if and only if none but the last slept. -/
theorem Chained.full_iff {cs : List SelectCall} (h : Chained cs) :
    (∀ c ∈ cs, c.timeout = window) ↔ ∀ c ∈ cs.tail, c.slept = 0 := by
  cases cs with
  | nil => simp
  | cons c earlier =>
    obtain ⟨hc, hearlier⟩ := h
    show _ ↔ ∀ c ∈ earlier, c.slept = 0
    constructor
    · intro hfull
      have hwindow : window = 180000000 := rfl
      have hlast : c.timeout = window := hfull c List.mem_cons_self
      exact totalSlept_eq_zero.mp (by omega)
    · intro hslept
      refine List.forall_mem_cons.mpr ⟨?_, hearlier.full hslept⟩
      have hzero : totalSlept earlier = 0 := totalSlept_eq_zero.mpr hslept
      omega

/-! ## The times of a run -/

/-- The recorded calls follow each other, and those that timed out slept their timeout. -/
structure Timeline (now : ℕ) (cs : List SelectCall) : Prop where
  chained : Chained cs
  ordered : cs.Pairwise fun c earlier => earlier.returned + c.slept ≤ c.returned
  expired : ∀ c ∈ cs, c.TimedOut → c.timeout ≤ c.slept
  past : ∀ c ∈ cs, c.returned ≤ now

/-- Before the loop there is no call; in the loop `timeout` is what the calls have left. -/
def BudgetAt (s : Server) : Pc → Prop
  | .socket | .ioctl | .bind | .listen => selects s.calls = []
  | .select | .scan | .accept | .acceptIoctl | .recv | .send | .closeConn =>
    s.timeout.micros = window - totalSlept (selects s.calls)
  | .sweep | .finished | .exited | .killed | .undefined => True

structure Timed (s : Server) : Prop where
  line : Timeline s.now (selects s.calls)
  budget : BudgetAt s s.pc

theorem timed_initial (h : Initial s) : Timed s := by
  have hnone : selects s.calls = [] := by simp [selects, h.calls]
  refine ⟨?_, ?_⟩
  · rw [hnone]
    exact ⟨trivial, .nil, by simp, by simp⟩
  · rw [h.pc]
    exact hnone

/-- One more call: it gets what is left, and starts behind all the others. -/
theorem Timeline.cons {now gap slept timeout : ℕ} {cs : List SelectCall}
    (h : Timeline now cs) (hleft : timeout = window - totalSlept cs)
    {r : Except Errno FdSet} (hk : ∀ ready, r = .ok ready → ready.bits.card = 0 → timeout ≤ slept) :
    Timeline (now + gap + slept) (⟨timeout, slept, now + gap + slept, r⟩ :: cs) := by
  refine ⟨⟨hleft, h.chained⟩, List.pairwise_cons.mpr ⟨fun c hc => ?_, h.ordered⟩,
    List.forall_mem_cons.mpr ⟨?_, h.expired⟩,
    List.forall_mem_cons.mpr ⟨Nat.le_refl _, fun c hc => ?_⟩⟩
  · have hpast := h.past c hc
    show c.returned + slept ≤ now + gap + slept
    omega
  · rintro ⟨ready, hr, hzero⟩
    exact hk ready hr hzero
  · have hpast := h.past c hc
    omega

theorem selected_micros (gap slept : ℕ) (r : Except Errno FdSet) :
    (s.selected gap slept r).timeout.micros = s.timeout.micros - slept :=
  Timeval.micros_ofMicros _

theorem timed_select {gap slept : ℕ} {r : Except Errno FdSet} (h : Timed s)
    (hpc : s.pc = .select) (hk : Kernel s (.select gap slept r)) :
    Timeline (s.selected gap slept r).now (selects (s.selected gap slept r).calls) ∧
      (s.selected gap slept r).timeout.micros =
        window - totalSlept (selects (s.selected gap slept r).calls) := by
  obtain ⟨hline, hbudget⟩ := h
  rw [hpc] at hbudget
  have hleft : s.timeout.micros = window - totalSlept (selects s.calls) := hbudget
  constructor
  · apply hline.cons hleft
    intro ready hr hzero
    subst hr
    exact hk.2 hzero
  · rw [selected_micros, hleft]
    show window - totalSlept (selects s.calls) - slept =
      window - (slept + totalSlept (selects s.calls))
    omega

theorem timed_turn (ht : Turn s e s') (hk : Kernel s e) (hpc : s.pc = e.pc) (h : Timed s) :
    Timed s' := by
  have hbudget := h.budget
  rw [hpc] at hbudget
  cases ht with
  | socketError | ioctlError | bindError | listenError | listenUndefined | selectUndefined
  | scanUndefined | scanEnd | acceptIoctlError | acceptUndefined | sendKilled
  | closeUndefined | sweepUndefined | sweepSkip | sweepClose | sweepEnd => exact ⟨h.line, trivial⟩
  | socket | ioctl | bind | scanSkip | scanListen | scanConn | scanAgain | acceptError | accept
  | acceptAdd | recvError | recvClosed | recvData | sendError | send | closeNot | closeMax
  | close => exact ⟨h.line, hbudget⟩
  | listen =>
    refine ⟨h.line, ?_⟩
    have hnone : selects s.calls = [] := hbudget
    show window = window - totalSlept (selects s.calls)
    rw [hnone]
    rfl
  | selectError | selectTimeout => exact ⟨(timed_select h hpc hk).1, trivial⟩
  | selectReady => exact ⟨(timed_select h hpc hk).1, (timed_select h hpc hk).2⟩

theorem timed_of_reachable (h : Reachable Steps Initial s) : Timed s := by
  apply h.invariant (fun _ => timed_initial)
  intro s e s' hs hstep
  obtain ⟨hpc, ht, hk⟩ := turn_of_steps hstep
  exact timed_turn ht hk hpc hs

/-- **The timeout, exactly**: in every run all `select()` calls have the full 3 minutes,
and none times out within 3 minutes of activity, if and only if no call before the last
one has slept. -/
theorem keepsTimeout_iff (h : Reachable Steps Initial s) :
    KeepsTimeout (selects s.calls) ↔ ∀ c ∈ (selects s.calls).tail, c.slept = 0 := by
  have hline := (timed_of_reachable h).line
  constructor
  · rintro ⟨hfull, -⟩
    exact hline.chained.full_iff.mp hfull
  · intro hslept
    have hfull := hline.chained.full_iff.mpr hslept
    refine ⟨hfull, hline.ordered.imp_of_mem fun {c earlier} hc _ hle hout _ => ?_⟩
    have hwindow : c.timeout = window := hfull c hc
    have hexpired : c.timeout ≤ c.slept := hline.expired c hc hout
    omega

theorem keepsTimeout_oneVisit :
    (serve oneVisit).pc = .finished ∧ KeepsTimeout (selects (serve oneVisit).calls) :=
  ⟨by decide, (keepsTimeout_iff (reachable_serve (by decide))).mpr (by decide)⟩

/-- The client comes after 100 seconds, nothing happens for 80 more, and the program
ends. -/
def lateClient : List Event :=
  [.socket (.ok 3), .ioctl (.ok ()), .bind (.ok ()), .listen (.ok ()),
    .select 0 100000000 (.ok ⟨{3}, three_inRange⟩), .scan, .scan, .scan, .scan, .accept (.ok 4),
    .acceptIoctl (.ok ()), .accept (.error .ewouldblock), .scan,
    .select 0 80000000 (.ok fdZero)]

/-- The second call gets 80 seconds only, and times out 80 seconds behind the client. -/
theorem not_keepsTimeout_lateClient :
    Reachable Steps Initial (serve lateClient) ∧ ¬ KeepsTimeout (selects (serve lateClient).calls) ∧
      ∃ c earlier, selects (serve lateClient).calls = [c, earlier] ∧ c.timeout = 80000000 ∧
        c.TimedOut ∧ earlier.Ready ∧ c.returned = earlier.returned + 80000000 := by
  have hcalls : selects (serve lateClient).calls =
      [⟨80000000, 80000000, 180000000, .ok fdZero⟩,
        ⟨180000000, 100000000, 100000000, .ok ⟨{3}, by decide⟩⟩] := by rfl
  rw [hcalls]
  refine ⟨reachable_serve (by decide), ?_, _, _, rfl, rfl, ⟨fdZero, rfl, rfl⟩, ⟨_, rfl, by decide⟩, rfl⟩
  rintro ⟨hfull, -⟩
  exact absurd (hfull _ List.mem_cons_self) (by decide)

end SimpleTests.Sockets
