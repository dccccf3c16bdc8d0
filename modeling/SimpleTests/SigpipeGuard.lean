import SimpleTests.SignalCalls

/-! # The scoped SIGPIPE guard, run by one thread

`ctor` and `dtor` are `CSigpipe_scoped::CSigpipe_scoped` and its destructor for a
thread that no other thread disturbs.  The destructor's `while (true)` loop is
`drain`, with the number of its rounds as fuel: `none` means that the fuel is
spent or that `sigwait()` has nothing to wait for, and `drain_eq` shows that
three rounds are always enough.

`Body` is what a thread does while guards are alive: it generates SIGPIPEs for
itself and opens further scopes, properly nested.
-/
namespace SimpleTests.Sigpipe

/-- The members of a `CSigpipe_scoped` object. -/
structure Guard where
  /-- `m_sigpipe_pending` -/
  sigpipePending : Bool
  /-- `m_sigpipe_unblock` -/
  sigpipeUnblock : Bool
  deriving DecidableEq

/-- `CSigpipe_scoped::CSigpipe_scoped()`.  If a SIGPIPE is reported pending the
constructor leaves `m_sigpipe_unblock` with whatever value the memory has,
`uninit`. -/
def ctor (uninit : Bool) (s : SigState) : Guard × SigState :=
  if s.sigpending then (⟨true, uninit⟩, s)
  else (⟨false, !s.blocked⟩, s.block)

/-- The loop of the destructor: `sigwait()` as long as `sigpending()` reports a
SIGPIPE. -/
def drain : ℕ → SigState → Option SigState
  | 0, _ => none
  | fuel + 1, s => if s.sigpending then s.sigwait.bind (drain fuel) else some s

/-- `CSigpipe_scoped::~CSigpipe_scoped()`. -/
def dtor (fuel : ℕ) (g : Guard) (s : SigState) : Option SigState :=
  if g.sigpipePending then some s
  else (drain fuel s).map fun s => if g.sigpipeUnblock then s.unblock else s

/-- What a thread does inside a scope.  `uninit` is the value that the memory of
the inner guard's `m_sigpipe_unblock` has before its constructor runs. -/
inductive Body
  | done
  | generate (rest : Body)
  | scope (uninit : Bool) (inner rest : Body)
  deriving DecidableEq

/-- Runs a body; `none` if a destructor does not return. -/
def exec (fuel : ℕ) : Body → SigState → Option SigState
  | .done, s => some s
  | .generate rest, s => exec fuel rest s.generate
  | .scope uninit inner rest, s =>
    let (g, s) := ctor uninit s
    (exec fuel inner s).bind fun s => (dtor fuel g s).bind (exec fuel rest)

namespace Body

/-- Whether a SIGPIPE is generated anywhere in the body. -/
def generates : Body → Bool
  | .done => false
  | .generate _ => true
  | .scope _ inner rest => inner.generates || rest.generates

/-- Whether a SIGPIPE is generated outside the inner scopes of the body. -/
def generatesHere : Body → Bool
  | .done => false
  | .generate _ => true
  | .scope _ _ rest => rest.generatesHere

/-- The same scopes with nothing generated. -/
def silent : Body → Body
  | .done => .done
  | .generate rest => rest.silent
  | .scope uninit inner rest => .scope uninit inner.silent rest.silent

/-- The body without the values of uninitialised memory. -/
def forget : Body → Body
  | .done => .done
  | .generate rest => .generate rest.forget
  | .scope _ inner rest => .scope false inner.forget rest.forget

@[simp] theorem generates_silent (b : Body) : b.silent.generates = false := by
  induction b with
  | done => rfl
  | generate rest ih => exact ih
  | scope u inner rest ih₁ ih₂ => simp [silent, generates, ih₁, ih₂]

end Body

/-! ## Constructor, loop and destructor -/

section Calls
variable {s : SigState}

theorem ctor_of_sigpending (h : s.sigpending = true) (uninit : Bool) :
    ctor uninit s = (⟨true, uninit⟩, s) := by simp [ctor, h]

theorem ctor_of_not_sigpending (h : s.sigpending = false) (uninit : Bool) :
    ctor uninit s = (⟨false, !s.blocked⟩, s.block) := by simp [ctor, h]

/-- **The loop ends after at most two `sigwait()` calls**, none of which blocks,
and leaves nothing pending for a thread that blocks SIGPIPE. -/
theorem drain_eq (h : s.blocked = true) (fuel : ℕ) :
    drain (fuel + 3) s =
      some { s with pending := false, processPending := false, pending_blocked := by simp } := by
  cases hp : s.pending <;> cases hq : s.processPending <;>
    simp [drain, SigState.sigpending, SigState.sigwait, SigState.take, h, hp, hq] <;>
    ext <;> simp [h, hp, hq]

/-- Without a process-directed SIGPIPE one call is enough. -/
theorem drain_of_thread (h : s.blocked = true) (hq : s.processPending = false) (fuel : ℕ) :
    drain (fuel + 2) s = some { s with pending := false, pending_blocked := by simp } := by
  cases hp : s.pending
  all_goals
    simp [drain, SigState.sigpending, SigState.sigwait, SigState.take, h, hp, hq]
  ext <;> simp [h, hp, hq]

/-- The loop undoes what a body left pending. -/
theorem drain_generated (hb : s.blocked = true) (hp : s.pending = false)
    (hq : s.processPending = false) (fuel : ℕ) (c : Bool) :
    drain (fuel + 2) (bif c then s.generate else s) = some s := by
  cases c with
  | false =>
    rw [cond_false, drain_of_thread hb hq]
    exact congrArg some (by ext <;> simp [hp])
  | true =>
    rw [cond_true, drain_of_thread (by simp [hb]) (by simp [hq])]
    exact congrArg some (by ext <;> simp [hb, hp, SigState.handled_generate])

theorem dtor_of_pending {g : Guard} (h : g.sigpipePending = true) (fuel : ℕ) :
    dtor fuel g s = some s := by simp [dtor, h]

end Calls

/-! ## Bodies of a thread that has SIGPIPE blocked -/

section Exec
variable {s : SigState}

/-- **While a SIGPIPE is reported pending, guards do nothing at all**: the only
effect of a body is that a generated SIGPIPE is pending in the thread's own
set. -/
theorem exec_of_sigpending (fuel : ℕ) (b : Body) (h : s.sigpending = true) :
    exec fuel b s = some (bif b.generates then s.generate else s) := by
  induction b generalizing s with
  | done => rfl
  | generate rest ih =>
    have hb : s.blocked = true := by simp [SigState.sigpending] at h; exact h.1
    have twice : s.generate.generate = s.generate :=
      SigState.generate_of_pending (SigState.pending_generate hb)
    simp [exec, ih (SigState.sigpending_generate hb), Body.generates, twice]
  | scope u inner rest ih₁ ih₂ =>
    have hb : s.blocked = true := by simp [SigState.sigpending] at h; exact h.1
    have twice : s.generate.generate = s.generate :=
      SigState.generate_of_pending (SigState.pending_generate hb)
    have hg : ∀ c : Bool, (bif c then s.generate else s).sigpending = true := by
      intro c; cases c
      · exact h
      · exact SigState.sigpending_generate hb
    simp only [exec, ctor_of_sigpending h, ih₁ h, Option.bind_some,
      dtor_of_pending (g := ⟨true, u⟩) rfl, ih₂ (hg _), Body.generates]
    cases inner.generates <;> cases rest.generates <;> simp [twice]

/-- **A body of a thread that blocks SIGPIPE and has none pending** leaves one
pending exactly if it generated one outside its inner scopes: each inner guard
finds nothing pending and clears what its own scope generated. -/
theorem exec_of_blocked (fuel : ℕ) (b : Body) (hb : s.blocked = true)
    (hp : s.pending = false) (hq : s.processPending = false) :
    exec (fuel + 2) b s = some (bif b.generatesHere then s.generate else s) := by
  induction b generalizing s with
  | done => rfl
  | generate rest _ =>
    have hs : s.generate.sigpending = true := SigState.sigpending_generate hb
    have twice : s.generate.generate = s.generate :=
      SigState.generate_of_pending (SigState.pending_generate hb)
    simp [exec, exec_of_sigpending _ rest hs, Body.generatesHere, twice]
  | scope u inner rest ih₁ ih₂ =>
    have hs : s.sigpending = false := by simp [SigState.sigpending, hp, hq]
    simp only [exec, ctor_of_not_sigpending hs, SigState.block_of_blocked hb, hb, Bool.not_true,
      ih₁ hb hp hq, Option.bind_some, dtor, drain_generated hb hp hq, Option.map_some,
      ih₂ hb hp hq, Bool.false_eq_true, if_false, Body.generatesHere]

end Exec

end SimpleTests.Sigpipe
