import Mathlib.Tactic.Common
import Mathlib.Data.Nat.Notation

/-! # SIGPIPE as the signal calls of one thread see it

The kernel keeps one mask and one set of pending signals for each thread, and
one more set of pending signals for the whole process.  For a single signal
number each set is one flag: a second SIGPIPE that arrives at a set where one is
pending already merges with it.  The two sets do not merge with each other.

`ThreadSig` is what belongs to the thread, with the kernel's own invariant that
a thread-directed signal is pending only while it is blocked.  `SigState` adds
the process-directed flag, which all threads share, and carries the calls that
`CSigpipe_scoped` makes: `sigpending`, `pthread_sigmask` and `sigwait`.
-/
namespace SimpleTests.Sigpipe

/-- The part of the signal state that belongs to one thread: its mask bit and
its pending flag for SIGPIPE, and how often its handler has run. -/
@[ext] structure ThreadSig where
  blocked : Bool
  pending : Bool
  handled : ℕ
  /-- A signal that is not blocked is delivered, it does not become pending. -/
  pending_blocked : pending = true → blocked = true
  deriving DecidableEq

/-- What is not pending need not be blocked. -/
theorem ThreadSig.pending_blocked_off : ∀ blocked : Bool, false = true → blocked = true := by simp

/-- What the signal calls of one thread act on: its own part and the
process-directed pending flag. -/
@[ext] structure SigState extends ThreadSig where
  processPending : Bool
  deriving DecidableEq

/-- The two sets a pending SIGPIPE may be in. -/
inductive Level
  | thread
  | process
  deriving DecidableEq

namespace SigState
variable (s : SigState)

/-- `sigpending()`, asked for SIGPIPE: the union of both sets, restricted to what
the thread blocks. -/
def sigpending : Bool := s.blocked && (s.pending || s.processPending)

/-- A SIGPIPE directed to the thread, as by a write to a broken pipe or by
`raise()`: it becomes pending, or merges with the pending one, if it is blocked;
otherwise the handler runs. -/
def generate : SigState :=
  if h : s.blocked then { s with pending := true, pending_blocked := fun _ => h }
  else { s with handled := s.handled + 1 }

/-- `pthread_sigmask(SIG_BLOCK, ..)`. -/
def block : SigState := { s with blocked := true, pending_blocked := fun _ => rfl }

/-- `pthread_sigmask(SIG_UNBLOCK, ..)`: every SIGPIPE that is pending for the thread
is delivered before the call returns, the two sets each giving one. -/
def unblock : SigState where
  blocked := false
  pending := false
  handled := s.handled + s.pending.toNat + s.processPending.toNat
  pending_blocked := ThreadSig.pending_blocked_off false
  processPending := false

/-- The pending SIGPIPE of one set is accepted: its flag is cleared and no handler
runs.  There is none if the flag is not set. -/
def take : Level → Option SigState
  | .thread =>
    if s.pending then some { s with pending := false, pending_blocked := by simp } else none
  | .process => if s.processPending then some { s with processPending := false } else none

/-- `sigwait()`, which looks into the thread's own set first; `none` if nothing is
pending, where the call blocks. -/
def sigwait : Option SigState := (s.take .thread).or (s.take .process)

/-- The process-directed SIGPIPE is delivered to the thread, which must not block
it. -/
def deliver : Option SigState :=
  if !s.blocked && s.processPending then
    some { s with processPending := false, handled := s.handled + 1 }
  else none

variable {s}

theorem pending_eq_false (h : s.blocked = false) : s.pending = false := by
  cases hp : s.pending with
  | false => rfl
  | true => exact absurd (s.pending_blocked hp) (by simp [h])

@[simp] theorem blocked_block : s.block.blocked = true := rfl
@[simp] theorem pending_block : s.block.pending = s.pending := rfl
@[simp] theorem handled_block : s.block.handled = s.handled := rfl
@[simp] theorem processPending_block : s.block.processPending = s.processPending := rfl

theorem block_of_blocked (h : s.blocked = true) : s.block = s := by
  ext <;> simp [h]

@[simp] theorem blocked_generate : s.generate.blocked = s.blocked := by
  unfold generate; split <;> rfl

@[simp] theorem processPending_generate : s.generate.processPending = s.processPending := by
  unfold generate; split <;> rfl

theorem pending_generate (h : s.blocked = true) : s.generate.pending = true := by
  simp [generate, h]

theorem handled_generate (h : s.blocked = true) : s.generate.handled = s.handled := by
  simp [generate, h]

/-- A SIGPIPE generated where one is pending in the thread's own set leaves no
trace: there is no queuing within one set. -/
theorem generate_of_pending (h : s.pending = true) : s.generate = s := by
  have hb : s.blocked = true := s.pending_blocked h
  ext <;> simp [pending_generate, handled_generate, hb, h]

@[simp] theorem sigpending_generate (h : s.blocked = true) : s.generate.sigpending = true := by
  simp [sigpending, pending_generate, h]

/-- What accepting a SIGPIPE needs and does. -/
theorem take_cases {l : Level} {s' : SigState} (h : s.take l = some s') :
    s'.blocked = s.blocked ∧
    (l = .thread ∧ s.pending = true ∧ s'.pending = false ∧ s'.processPending = s.processPending ∨
      l = .process ∧ s.processPending = true ∧ s'.processPending = false ∧
        s'.pending = s.pending) := by
  cases l with
  | thread =>
    obtain ⟨hp, hs⟩ := Option.ite_none_right_eq_some.mp h
    cases hs
    exact ⟨rfl, Or.inl ⟨rfl, hp, rfl, rfl⟩⟩
  | process =>
    obtain ⟨hp, hs⟩ := Option.ite_none_right_eq_some.mp h
    cases hs
    exact ⟨rfl, Or.inr ⟨rfl, hp, rfl, rfl⟩⟩

/-- What the delivery of the process-directed SIGPIPE needs and does. -/
theorem deliver_cases {s' : SigState} (h : s.deliver = some s') :
    s.blocked = false ∧ s'.blocked = s.blocked ∧ s'.pending = s.pending ∧
      s'.processPending = false := by
  obtain ⟨hcond, hs⟩ := Option.ite_none_right_eq_some.mp h
  cases hs
  simp only [Bool.and_eq_true, Bool.not_eq_true'] at hcond
  exact ⟨hcond.1, rfl, rfl, rfl⟩

end SigState

end SimpleTests.Sigpipe
