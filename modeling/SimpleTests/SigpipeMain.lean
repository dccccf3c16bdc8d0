import SimpleTests.SigpipeGuard
import Mathlib.Tactic.Common

/-! # The demonstration of the guard

`main()` of `sigpipe/main.cpp` installs a handler for SIGPIPE, raises the signal in the scope of
a guard, and raises it again behind the scope.  While it runs, other processes may send it
SIGPIPEs at any moment: between any two of its signal calls, those of the guard included, and
between any two reads of `gSignalStatus`.

What comes from outside while SIGPIPE is blocked is lost, unless it comes when the loop of the
destructor has seen that nothing is pending: `SIG_UNBLOCK` delivers that (`inside_of_quiet`).  So
the demonstration shows what it wants to show if and only if SIGPIPE was not blocked when the
process was started and none comes from outside before or behind these calls (`main_counts`).
-/
namespace SimpleTests.Sigpipe

namespace SigState

/-- A SIGPIPE that is directed to the process, which has this one thread.  Where it is not
blocked it is delivered as one that is directed to the thread. -/
def arrive (s : SigState) : SigState :=
  if s.blocked then { s with processPending := true } else s.generate

/-- So many come from outside, one after the other. -/
def arrivals : ℕ → SigState → SigState
  | 0, s => s
  | n + 1, s => arrivals n s.arrive

/-- `gSignalStatus`, which the handler sets. -/
def signalStatus (s : SigState) : ℕ := if s.handled = 0 then 0 else 13

end SigState

/-! ## The program -/

/-- How many SIGPIPEs come from outside in one turn of the destructor's loop. -/
structure Pause where
  beforeSigpending : ℕ
  beforeSigwait : ℕ
  deriving DecidableEq

/-- The constructor, where `n` SIGPIPEs come from outside between its two calls. -/
def ctorAmid (uninit : Bool) (n : ℕ) (s : SigState) : Guard × SigState :=
  if s.sigpending then (⟨true, uninit⟩, s.arrivals n)
  else (⟨false, !(s.arrivals n).blocked⟩, (s.arrivals n).block)

/-- The loop of the destructor.  Nothing comes from outside any more behind the last pause. -/
def drainAmid : List Pause → SigState → Option SigState
  | [], s => drain 3 s
  | p :: loop, s =>
    let s := s.arrivals p.beforeSigpending
    if s.sigpending then (s.arrivals p.beforeSigwait).sigwait.bind (drainAmid loop) else some s

/-- The destructor, where `n` come behind the loop. -/
def dtorAmid (loop : List Pause) (n : ℕ) (g : Guard) (s : SigState) : Option SigState :=
  if g.sigpipePending then some s
  else (drainAmid loop s).map fun s =>
    if g.sigpipeUnblock then (s.arrivals n).unblock else s.arrivals n

/-- How many SIGPIPEs the process gets from outside, and when: between two signal calls, two
reads of `gSignalStatus`, or a read and a call.  A SIGPIPE that comes while the handler runs
waits for its end, and those that merge there are one. -/
structure Outside where
  /-- before the first value is shown -/
  start : ℕ
  beforeScope : ℕ
  /-- between `sigpending()` and `SIG_BLOCK` of the constructor -/
  beforeBlock : ℕ
  beforeRaise : ℕ
  afterRaise : ℕ
  /-- in the loop of the destructor -/
  loop : List Pause
  /-- between the last `sigpending()` and `SIG_UNBLOCK` of the destructor -/
  beforeUnblock : ℕ
  /-- behind the scope -/
  left : ℕ
  /-- between the test and the value that is shown then -/
  leftValue : ℕ
  beforeLast : ℕ
  /-- behind the second `raise()` -/
  last : ℕ
  lastValue : ℕ
  deriving DecidableEq

/-- The scope of the guard, in which SIGPIPE is raised once. -/
def inside (uninit : Bool) (x : Outside) (s : SigState) : Option SigState :=
  let (g, s) := ctorAmid uninit x.beforeBlock s
  dtorAmid x.loop x.beforeUnblock g ((s.arrivals x.beforeRaise).generate.arrivals x.afterRaise)

/-- `"SignalValue: "` with the value. -/
def signalValue (s : SigState) : String := "SignalValue: " ++ toString s.signalStatus

/-- What is said behind a `raise()`, with the states in which `gSignalStatus` is tested and
shown. -/
def verdict (s t : SigState) : List String :=
  (if s.signalStatus ≠ 0 then ["Signal delivered, signal_handler executed."] else []) ++
    [signalValue t]

/-- All the lines, with the states in which `gSignalStatus` is read. -/
def transcript (first left leftValue last lastValue : SigState) : List String :=
  [signalValue first, "Suppress signal SIGPIPE", "Raise SIGPIPE = 13"] ++
    verdict left leftValue ++ ["", "Raise SIGPIPE = 13"] ++ verdict last lastValue

/-- `main()`, from the point where the handler is installed, with the lines it prints.  It
returns `EXIT_SUCCESS`, since `raise()` does not fail. -/
def main (uninit : Bool) (x : Outside) (s : SigState) : Option (List String × SigState) :=
  let first := s.arrivals x.start
  (inside uninit x (first.arrivals x.beforeScope)).map fun s =>
      let left := s.arrivals x.left
      let leftValue := left.arrivals x.leftValue
      let last := (leftValue.arrivals x.beforeLast).generate.arrivals x.last
      let lastValue := last.arrivals x.lastValue
      (transcript first left leftValue last lastValue, lastValue)

/-! ## What a guard takes -/

section Guard
variable {s : SigState} {n : ℕ}

@[simp] theorem arrivals_zero : s.arrivals 0 = s := rfl

/-- Without SIGPIPEs from outside this is the guard. -/
theorem ctorAmid_zero (uninit : Bool) : ctorAmid uninit 0 s = ctor uninit s := rfl

theorem dtorAmid_zero (g : Guard) : dtorAmid [] 0 g s = dtor 3 g s := rfl

@[simp] theorem blocked_arrive : s.arrive.blocked = s.blocked := by
  unfold SigState.arrive
  split
  · rfl
  · exact SigState.blocked_generate

@[simp] theorem blocked_arrivals : (s.arrivals n).blocked = s.blocked := by
  induction n generalizing s with
  | zero => rfl
  | succ n ih => exact ih.trans blocked_arrive

theorem arrive_of_unblocked (h : s.blocked = false) :
    s.arrive = { s with handled := s.handled + 1 } := by
  simp [SigState.arrive, SigState.generate, h]

/-- Where SIGPIPE is not blocked the handler runs for each one from outside. -/
theorem arrivals_of_unblocked (h : s.blocked = false) :
    s.arrivals n = { s with handled := s.handled + n } := by
  induction n generalizing s with
  | zero => rfl
  | succ n ih =>
    have hone := arrive_of_unblocked h
    show s.arrive.arrivals n = _
    rw [ih (by rw [hone]; exact h), hone]
    ext <;> simp
    omega

/-- Where it is blocked one may be pending afterwards. -/
theorem arrivals_of_blocked (h : s.blocked = true) :
    s.arrivals n = { s with processPending := s.processPending || decide (0 < n) } := by
  induction n generalizing s with
  | zero => simp
  | succ n ih =>
    show s.arrive.arrivals n = _
    rw [ih (blocked_arrive.trans h), SigState.arrive, if_pos h]
    simp

/-- `sigwait()` does not block where `sigpending()` reports a SIGPIPE. -/
theorem exists_sigwait (h : s.sigpending = true) :
    ∃ t, s.sigwait = some t ∧ t.blocked = s.blocked ∧ t.handled = s.handled := by
  have hpending : s.blocked = true ∧ (s.pending = true ∨ s.processPending = true) := by
    simpa [SigState.sigpending] using h
  cases hp : s.pending with
  | true =>
    have htake : s.sigwait = s.take .thread := by simp [SigState.sigwait, SigState.take, hp]
    rw [htake, SigState.take, if_pos hp]
    exact ⟨_, rfl, rfl, rfl⟩
  | false =>
    have hq : s.processPending = true := by simpa [hp] using hpending.2
    have htake : s.sigwait = s.take .process := by simp [SigState.sigwait, SigState.take, hp]
    rw [htake, SigState.take, if_pos hq]
    exact ⟨_, rfl, rfl, rfl⟩

/-- The state behind the loop of a destructor that was entered in `s`. -/
structure Drained (s t : SigState) : Prop where
  blocked : t.blocked = true
  pending : t.pending = false
  processPending : t.processPending = false
  handled : t.handled = s.handled

/-- **The loop ends**, whatever comes from outside. -/
theorem exists_drainAmid (h : s.blocked = true) (loop : List Pause) :
    ∃ t, drainAmid loop s = some t ∧ Drained s t := by
  induction loop generalizing s with
  | nil => exact ⟨_, drain_eq h 0, h, rfl, rfl, rfl⟩
  | cons p loop ih =>
    have hcalled : (s.arrivals p.beforeSigpending).blocked = true := blocked_arrivals.trans h
    have hsame : (s.arrivals p.beforeSigpending).handled = s.handled := by
      rw [arrivals_of_blocked h]
    rw [drainAmid]
    by_cases hsig : (s.arrivals p.beforeSigpending).sigpending = true
    · -- what is pending stays so until `sigwait()`
      have hstill :
          ((s.arrivals p.beforeSigpending).arrivals p.beforeSigwait).sigpending = true := by
        rw [arrivals_of_blocked hcalled]
        simp only [SigState.sigpending, Bool.and_eq_true, Bool.or_eq_true] at hsig ⊢
        exact ⟨hsig.1, hsig.2.imp_right Or.inl⟩
      obtain ⟨t, ht, htb, hth⟩ := exists_sigwait hstill
      obtain ⟨u, hu, hdrained⟩ := ih (htb.trans (blocked_arrivals.trans hcalled))
      refine ⟨u, ?_, hdrained.blocked, hdrained.pending, hdrained.processPending, ?_⟩
      · simp only [if_pos hsig, ht, Option.bind_some, hu]
      · rw [hdrained.handled, hth, arrivals_of_blocked hcalled, hsame]
    · have hnone : (s.arrivals p.beforeSigpending).pending = false ∧
          (s.arrivals p.beforeSigpending).processPending = false := by
        simpa only [SigState.sigpending, hcalled, Bool.true_and, Bool.or_eq_true, not_or,
          Bool.not_eq_true] using hsig
      exact ⟨_, by simp only [if_neg hsig], hcalled, hnone.1, hnone.2, hsame⟩

/-- While SIGPIPE is blocked no handler runs for what is raised. -/
theorem raised_of_blocked (h : s.blocked = true) (m : ℕ) :
    ((s.arrivals n).generate.arrivals m).blocked = true ∧
      ((s.arrivals n).generate.arrivals m).handled = s.handled := by
  have hfirst : (s.arrivals n).blocked = true := blocked_arrivals.trans h
  have hraised : (s.arrivals n).generate.blocked = true := SigState.blocked_generate.trans hfirst
  refine ⟨blocked_arrivals.trans hraised, ?_⟩
  rw [arrivals_of_blocked hraised]
  show (s.arrivals n).generate.handled = s.handled
  rw [SigState.handled_generate hfirst, arrivals_of_blocked h]

/-- **What a scope leaves** that is entered with SIGPIPE unblocked and nothing pending, whatever
comes in it: the handler has run for what came before the constructor's `SIG_BLOCK`, and once if
something came behind the destructor's last `sigpending()`. -/
theorem inside_of_quiet (uninit : Bool) (x : Outside) (hb : s.blocked = false)
    (hprocess : s.processPending = false) :
    inside uninit x s = some (s.arrivals (x.beforeBlock + min 1 x.beforeUnblock)) := by
  have hsig : ¬ s.sigpending = true := by simp [SigState.sigpending, hb]
  have hctor : ctorAmid uninit x.beforeBlock s =
      (⟨false, true⟩, (s.arrivals x.beforeBlock).block) := by
    rw [ctorAmid, if_neg hsig, blocked_arrivals, hb]
    rfl
  obtain ⟨hblocked, hhandled⟩ := raised_of_blocked (s := (s.arrivals x.beforeBlock).block)
    (n := x.beforeRaise) rfl x.afterRaise
  obtain ⟨t, ht, hdrained⟩ := exists_drainAmid hblocked x.loop
  have hcount : t.handled = s.handled + x.beforeBlock := by
    rw [hdrained.handled, hhandled, arrivals_of_unblocked hb]
    rfl
  have hlate : (decide (0 < x.beforeUnblock)).toNat = min 1 x.beforeUnblock := by
    rcases Nat.eq_zero_or_pos x.beforeUnblock with h0 | hpos
    · simp [h0]
    · simp [hpos, Nat.min_eq_left hpos]
  rw [inside, hctor]
  simp only [dtorAmid, Bool.false_eq_true, if_false, ht, Option.map_some, if_true]
  rw [arrivals_of_blocked hdrained.blocked, arrivals_of_unblocked hb]
  congr 1
  ext
  · exact hb.symm
  · exact (SigState.pending_eq_false hb).symm
  · simp [SigState.unblock, hdrained.pending, hdrained.processPending, hcount, hlate]
    omega
  · exact hprocess.symm

/-- A thread that blocks SIGPIPE leaves the scope with the same count. -/
theorem exists_inside_of_blocked (uninit : Bool) (x : Outside) (h : s.blocked = true) :
    ∃ t, inside uninit x s = some t ∧ t.blocked = true ∧ t.handled = s.handled := by
  have hamid : (s.arrivals x.beforeBlock).blocked = true := blocked_arrivals.trans h
  have hsame : (s.arrivals x.beforeBlock).handled = s.handled := by rw [arrivals_of_blocked h]
  obtain ⟨hblocked, hhandled⟩ := raised_of_blocked (n := x.beforeRaise) hamid x.afterRaise
  rw [inside, ctorAmid]
  by_cases hsig : s.sigpending = true
  · exact ⟨_, by simp only [if_pos hsig, dtorAmid, if_true], hblocked, hhandled.trans hsame⟩
  · obtain ⟨t, ht, hdrained⟩ := exists_drainAmid hblocked x.loop
    refine ⟨t.arrivals x.beforeUnblock, ?_, blocked_arrivals.trans hdrained.blocked, ?_⟩
    · simp only [if_neg hsig, dtorAmid, hamid, SigState.block_of_blocked hamid, Bool.not_true,
        Bool.false_eq_true, if_false, ht, Option.map_some]
    · rw [arrivals_of_blocked hdrained.blocked]
      exact hdrained.handled.trans (hhandled.trans hsame)

theorem handled_generate_of_unblocked (h : s.blocked = false) :
    s.generate.handled = s.handled + 1 := by simp [SigState.generate, h]

/-- A thread that can receive SIGPIPE has none left to receive. -/
def SigState.Settled (s : SigState) : Prop := s.blocked = false → s.processPending = false

end Guard

/-! ## What the demonstration shows -/

/-- What the program is written to show. -/
def demonstration : List String :=
  ["SignalValue: 0", "Suppress signal SIGPIPE", "Raise SIGPIPE = 13", "SignalValue: 0",
    "", "Raise SIGPIPE = 13", "Signal delivered, signal_handler executed.", "SignalValue: 13"]

theorem signalStatus_eq_zero {s : SigState} : s.signalStatus = 0 ↔ s.handled = 0 := by
  unfold SigState.signalStatus
  split <;> simp [*]

theorem signalValue_of_zero {s : SigState} (h : s.handled = 0) :
    signalValue s = "SignalValue: 0" := by
  rw [signalValue, signalStatus_eq_zero.mpr h]
  rfl

theorem signalValue_of_handled {s : SigState} (h : s.handled ≠ 0) :
    signalValue s = "SignalValue: 13" := by
  rw [signalValue, SigState.signalStatus, if_neg h]
  rfl

theorem signalValue_eq_zero_iff {s : SigState} :
    signalValue s = "SignalValue: 0" ↔ s.handled = 0 := by
  refine ⟨fun h => ?_, signalValue_of_zero⟩
  by_contra hs
  rw [signalValue_of_handled hs] at h
  exact absurd h (by decide)

theorem signalValue_eq_handled_iff {s : SigState} :
    signalValue s = "SignalValue: 13" ↔ s.handled ≠ 0 := by
  refine ⟨fun h hs => ?_, signalValue_of_handled⟩
  rw [signalValue_of_zero hs] at h
  exact absurd h (by decide)

theorem verdict_eq_nothing_iff {s t : SigState} :
    verdict s t = ["SignalValue: 0"] ↔ s.handled = 0 ∧ t.handled = 0 := by
  by_cases hs : s.handled = 0
  · simp [verdict, signalStatus_eq_zero, signalValue_eq_zero_iff, hs]
  · simp [verdict, signalStatus_eq_zero, hs]

theorem verdict_eq_delivered_iff {s t : SigState} :
    verdict s t = ["Signal delivered, signal_handler executed.", "SignalValue: 13"] ↔
      s.handled ≠ 0 ∧ t.handled ≠ 0 := by
  by_cases hs : s.handled = 0
  · simp [verdict, signalStatus_eq_zero, hs]
  · simp [verdict, signalStatus_eq_zero, signalValue_eq_handled_iff, hs]

theorem verdict_of_zero {s t : SigState} (h : s.handled = 0) : verdict s t = [signalValue t] := by
  simp [verdict, signalStatus_eq_zero, h]

theorem transcript_eq_demonstration_iff {a b c d e : SigState} :
    transcript a b c d e = demonstration ↔
      a.handled = 0 ∧ (b.handled = 0 ∧ c.handled = 0) ∧ d.handled ≠ 0 ∧ e.handled ≠ 0 := by
  rw [← verdict_eq_nothing_iff, ← verdict_eq_delivered_iff, ← signalValue_eq_zero_iff]
  constructor
  · intro h
    by_cases hb : b.handled = 0
    · rw [transcript, verdict_of_zero hb] at h
      simpa [demonstration, verdict_of_zero hb] using h
    · simp [transcript, demonstration, verdict, signalStatus_eq_zero, hb] at h
  · rintro ⟨ha, hb, hd⟩
    rw [transcript, ha, hb, hd]
    rfl

/-- How often the handler runs where SIGPIPE is not blocked: not for what comes while the guard
blocks it, but once if that is behind the last `sigpending()`. -/
def Outside.total (x : Outside) : ℕ :=
  x.start + x.beforeScope + (x.beforeBlock + min 1 x.beforeUnblock) + x.left + x.leftValue +
    x.beforeLast + 1 + x.last + x.lastValue

/-- **What becomes of the demonstration**, wherever SIGPIPEs come from outside.  The program ends,
with the mask it was started with.  If SIGPIPE is not blocked the handler runs for the second
`raise()` and for what comes from outside, but for nothing that is received between the
constructor's `SIG_BLOCK` and the destructor's last `sigpending()`, and once for what comes from
there to `SIG_UNBLOCK`; if SIGPIPE is blocked it never runs.  So the lines are those that the
program is written to show if and only if SIGPIPE was not blocked and nothing came from outside
before the test behind the scope had been shown, but between these two calls. -/
theorem main_counts (uninit : Bool) (x : Outside) (s : SigState) (hstart : s.handled = 0)
    (hsettled : s.Settled) :
    ∃ out u, main uninit x s = some (out, u) ∧ u.blocked = s.blocked ∧
      u.handled = (if s.blocked then 0 else x.total) ∧
      (out = demonstration ↔ s.blocked = false ∧
        x.start = 0 ∧ x.beforeScope = 0 ∧ x.beforeBlock = 0 ∧ x.beforeUnblock = 0 ∧
        x.left = 0 ∧ x.leftValue = 0) := by
  cases hb : s.blocked with
  | false =>
    have hentry : ((s.arrivals x.start).arrivals x.beforeScope).blocked = false := by simpa using hb
    have hprocess : ((s.arrivals x.start).arrivals x.beforeScope).processPending = false := by
      rw [arrivals_of_unblocked (by simpa using hb), arrivals_of_unblocked hb]
      exact hsettled hb
    have hcount : ∀ (r : SigState) n, r.blocked = false → (r.arrivals n).handled = r.handled + n :=
      fun r n hr => by rw [arrivals_of_unblocked hr]
    refine ⟨_, _, by rw [main, inside_of_quiet uninit x hentry hprocess]; rfl, by simpa using hb,
      ?_, ?_⟩
    · simp [hcount, handled_generate_of_unblocked, hb, hstart, Outside.total]
    · simp [transcript_eq_demonstration_iff, hcount, handled_generate_of_unblocked, hb, hstart]
      omega
  | true =>
    have hscope : ((s.arrivals x.start).arrivals x.beforeScope).blocked = true := by simpa using hb
    obtain ⟨t, ht, htb, hth⟩ := exists_inside_of_blocked uninit x hscope
    have hcount : ∀ (r : SigState) n, r.blocked = true → (r.arrivals n).handled = r.handled :=
      fun r n hr => by rw [arrivals_of_blocked hr]
    refine ⟨_, _, by rw [main, ht]; rfl, by simpa using htb, ?_, ?_⟩
    · simp [hcount, SigState.handled_generate, htb, hth, hb, hstart]
    · simp [transcript_eq_demonstration_iff, hcount, SigState.handled_generate, htb, hth, hb,
        hstart]

/-- Two SIGPIPEs come before the `raise()` in the scope, one in the loop and four at the end; and
the same with one before `SIG_UNBLOCK`, which spoils the demonstration. -/
theorem main_counts_around :
    (∃ out u, main false ⟨0, 0, 0, 2, 0, [⟨1, 0⟩], 0, 0, 0, 0, 4, 0⟩
        ⟨⟨false, false, 0, by simp⟩, false⟩ = some (out, u) ∧
      u.blocked = false ∧ u.handled = 5 ∧ out = demonstration) ∧
    ∃ out u, main false ⟨0, 0, 0, 2, 0, [⟨1, 0⟩], 1, 0, 0, 0, 4, 0⟩
        ⟨⟨false, false, 0, by simp⟩, false⟩ = some (out, u) ∧
      u.blocked = false ∧ u.handled = 6 ∧ out ≠ demonstration := by
  constructor
  · obtain ⟨out, u, hrun, hblocked, hhandled, hout⟩ :=
      main_counts false ⟨0, 0, 0, 2, 0, [⟨1, 0⟩], 0, 0, 0, 0, 4, 0⟩
        ⟨⟨false, false, 0, by simp⟩, false⟩ rfl (fun _ => rfl)
    exact ⟨out, u, hrun, hblocked, hhandled, hout.mpr ⟨rfl, rfl, rfl, rfl, rfl, rfl, rfl⟩⟩
  · obtain ⟨out, u, hrun, hblocked, hhandled, hout⟩ :=
      main_counts false ⟨0, 0, 0, 2, 0, [⟨1, 0⟩], 1, 0, 0, 0, 4, 0⟩
        ⟨⟨false, false, 0, by simp⟩, false⟩ rfl (fun _ => rfl)
    exact ⟨out, u, hrun, hblocked, hhandled, fun h => by simpa using hout.mp h⟩

end SimpleTests.Sigpipe
