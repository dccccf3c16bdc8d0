import SimpleTests.SigpipeGuard

/-! # What a scope leaves behind

For a thread on its own, two laws about a whole `CSigpipe_scoped` scope.

* Without a process-directed SIGPIPE pending, the scope is transparent: whatever
  its body generates and however it nests further guards, the thread leaves with
  the signal state it entered with (`scope_transparent`).
* Entered with a SIGPIPE blocked and pending, the guard does nothing and relies
  on merging.  Merging happens within one set only, so the number of handler
  runs a later unblock gives is the one of the silent run exactly if the
  thread's own set held the pending signal (`handledAfter_eq_silent_iff`).
-/
namespace SimpleTests.Sigpipe

variable (fuel : ℕ) (uninit : Bool) (b : Body)

/-- Entered with SIGPIPE unblocked, the outermost guard blocks it, clears what the
body left pending and unblocks it again. -/
theorem exec_scope_of_unblocked {s : SigState} (hb : s.blocked = false)
    (hq : s.processPending = false) :
    exec (fuel + 2) (.scope uninit b .done) s = some s := by
  have hp : s.pending = false := SigState.pending_eq_false hb
  have hs : s.sigpending = false := by simp [SigState.sigpending, hb]
  have back : s.block.unblock = s := by
    ext <;> simp [SigState.unblock, hb, hp, hq]
  simp only [exec, ctor_of_not_sigpending hs, hb, Bool.not_false,
    exec_of_blocked fuel b SigState.blocked_block hp hq, Option.bind_some, dtor,
    drain_generated SigState.blocked_block hp hq, Option.map_some, Bool.false_eq_true, if_false,
    if_true, back]

/-- **Transparency of the guard.**  For every state without a process-directed
SIGPIPE pending and every body, the scope returns (no `sigwait()` of it blocks)
with the mask bit, the pending flag and the count of handler runs of its entry,
and the values of uninitialised memory make no difference. -/
theorem scope_transparent (s : SigState) (hq : s.processPending = false) :
    exec (fuel + 2) (.scope uninit b .done) s = some s ∧
    ∀ uninit' b', b'.forget = b.forget →
      exec (fuel + 2) (.scope uninit' b' .done) s =
        exec (fuel + 2) (.scope uninit b .done) s := by
  have key : ∀ u c, exec (fuel + 2) (.scope u c .done) s = some s := by
    intro u c
    cases hb : s.blocked with
    | false => exact exec_scope_of_unblocked fuel u c hb hq
    | true =>
      cases hp : s.pending with
      | false => exact exec_of_blocked fuel (.scope u c .done) hb hp hq
      | true =>
        have hs : s.sigpending = true := by simp [SigState.sigpending, hb, hp]
        rw [exec_of_sigpending _ _ hs, SigState.generate_of_pending hp, Bool.cond_self]
  exact ⟨key uninit b, fun u' b' _ => (key u' b').trans (key uninit b).symm⟩

/-- A scope entered with SIGPIPE unblocked, with one of its own in the body's scope and around
it; the inner guard finds one pending and leaves its flag uninitialised. -/
theorem scope_transparent_nested :
    exec 2 (.scope false (.generate (.scope true (.generate .done) (.generate .done))) .done)
        ⟨⟨false, false, 5, ThreadSig.pending_blocked_off false⟩, false⟩ =
      some ⟨⟨false, false, 5, ThreadSig.pending_blocked_off false⟩, false⟩ ∧
    exec 2 (.scope true (.generate (.scope false (.generate .done) (.generate .done))) .done)
        ⟨⟨false, false, 5, ThreadSig.pending_blocked_off false⟩, false⟩ =
      some ⟨⟨false, false, 5, ThreadSig.pending_blocked_off false⟩, false⟩ := by
  obtain ⟨hsame, hany⟩ := scope_transparent 0 false
    (.generate (.scope true (.generate .done) (.generate .done)))
    ⟨⟨false, false, 5, ThreadSig.pending_blocked_off false⟩, false⟩ rfl
  exact ⟨hsame, (hany true (.generate (.scope false (.generate .done) (.generate .done))) rfl).trans
    hsame⟩

/-! ## Entered with a SIGPIPE pending -/

/-- How often the handler has run after the caller has unblocked SIGPIPE behind the
body; `none` if the body does not return. -/
def handledAfter (s : SigState) : Option ℕ :=
  (exec fuel b s).map fun s => s.unblock.handled

theorem handledAfter_of_sigpending {s : SigState} (hs : s.sigpending = true) :
    handledAfter fuel b s =
      some (s.handled + (s.pending || b.generates).toNat + s.processPending.toNat) := by
  have hb : s.blocked = true := by simp [SigState.sigpending] at hs; exact hs.1
  rw [handledAfter, exec_of_sigpending fuel b hs]
  cases b.generates <;>
    simp [SigState.unblock, SigState.handled_generate, SigState.pending_generate, hb]

/-- **When the generated SIGPIPE really merges with the pending one.**  The scope is
entered with SIGPIPE blocked and pending in at least one set.  A later unblock
runs the handler as often as in the run whose body generates nothing exactly if
the thread's own set held a pending SIGPIPE at entry, or nothing is generated. -/
theorem handledAfter_eq_silent_iff (s : SigState) (hs : s.sigpending = true) :
    (∃ k, handledAfter fuel (.scope uninit b .done) s = some k ∧
      handledAfter fuel (.scope uninit b.silent .done) s = some k) ↔
    s.pending = true ∨ b.generates = false := by
  simp only [handledAfter_of_sigpending _ _ hs, Body.generates, Body.generates_silent,
    Bool.or_false, Option.some.injEq]
  cases s.pending <;> cases b.generates <;> simp

/-- Thread-directed and pending at entry: the generated one merges. -/
theorem handledAfter_eq_silent_thread :
    ∃ k, handledAfter 0 (.scope false (.generate .done) .done)
        ⟨⟨true, true, 0, fun _ => rfl⟩, true⟩ = some k ∧
      handledAfter 0 (.scope false (Body.generate .done).silent .done)
        ⟨⟨true, true, 0, fun _ => rfl⟩, true⟩ = some k :=
  (handledAfter_eq_silent_iff 0 false (.generate .done)
    ⟨⟨true, true, 0, fun _ => rfl⟩, true⟩ rfl).mpr (Or.inl rfl)

/-- Process-directed and pending at entry: the generated SIGPIPE goes to the
thread's own set, and the handler runs twice instead of once. -/
theorem handledAfter_ne_silent_process :
    SigState.sigpending ⟨⟨true, false, 0, fun _ => rfl⟩, true⟩ = true ∧
    handledAfter 0 (.scope false (.generate .done) .done)
        ⟨⟨true, false, 0, fun _ => rfl⟩, true⟩ = some 2 ∧
    handledAfter 0 (.scope false (Body.generate .done).silent .done)
        ⟨⟨true, false, 0, fun _ => rfl⟩, true⟩ = some 1 := by
  decide

end SimpleTests.Sigpipe
