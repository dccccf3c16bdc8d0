import SimpleTests.SigpipeThreads

/-! # An outermost scope among other threads

A thread `t` enters a `CSigpipe_scoped` scope with SIGPIPE unblocked and leaves the
mask to guards until the scope ends.  Whatever the other threads do and whichever
process-directed SIGPIPEs arrive, SIGPIPE stays blocked in `t` from the end of the
outermost constructor to the outermost destructor's own `SIG_UNBLOCK`, and none of
the SIGPIPEs that `t` generates inside is ever delivered (`scope_masks_sigpipe`).

What the inner guards sampled does not matter: each of them either found a SIGPIPE
pending and does nothing, or found SIGPIPE blocked and does not unblock it
(`Quiet`).  So only the outermost guard unblocks, and it does so behind a
`sigpending()` that reported nothing; from there on `t` generates nothing before the
unblock, and its own flag is the only place where its own SIGPIPEs can be.
-/
namespace SimpleTests.Sigpipe
open Transition

/-! ## The control of a thread inside the scope -/

/-- The destructor of the guard does not unblock SIGPIPE. -/
def Quiet (g : Guard) : Prop := g.sigpipePending = true ∨ g.sigpipeUnblock = false

/-- The guard of the scope, once it is constructed: it found nothing pending and
SIGPIPE unblocked. -/
def outer : Guard := ⟨false, true⟩

/-- The control of a thread inside a scope whose guard is constructed; `base` are the
guards around the scope. -/
inductive Nested (base : List Guard) : Control → Prop
  | body (inner : List Guard) (hq : ∀ g ∈ inner, Quiet g) :
      Nested base ⟨.body, inner ++ outer :: base⟩
  | ctorBlock (g : Guard) (inner : List Guard) (hg : g.sigpipePending = false)
      (hq : ∀ g ∈ inner, Quiet g) : Nested base ⟨.ctorBlock, g :: (inner ++ outer :: base)⟩
  | drainInner (ph : Phase) (g : Guard) (inner : List Guard)
      (hph : ph = .dtorPending ∨ ph = .dtorSigwait) (hg : g.sigpipeUnblock = false)
      (hq : ∀ g ∈ inner, Quiet g) : Nested base ⟨ph, g :: (inner ++ outer :: base)⟩
  | drainOuter (ph : Phase) (hph : ph = .dtorPending ∨ ph = .dtorSigwait) :
      Nested base ⟨ph, outer :: base⟩
  | unblock : Nested base ⟨.dtorUnblock, outer :: base⟩

variable {base : List Guard} {c c' : Control} {s : SigState} {a : Action}

theorem Nested.length_lt (h : Nested base c) : base.length < c.guards.length := by
  cases h <;> simp <;> omega

section Places
variable {gs : List Guard} {ph ph' : Phase}

theorem Nested.of_body (h : Nested base ⟨.body, gs⟩) :
    ∃ inner, (∀ g ∈ inner, Quiet g) ∧ gs = inner ++ outer :: base := by
  cases h with
  | body inner hq => exact ⟨inner, hq, rfl⟩
  | drainInner _ _ _ hph | drainOuter _ hph => simp at hph

theorem Nested.of_ctorBlock (h : Nested base ⟨.ctorBlock, gs⟩) :
    ∃ g inner, (∀ g ∈ inner, Quiet g) ∧ gs = g :: (inner ++ outer :: base) := by
  cases h with
  | ctorBlock g inner _ hq => exact ⟨g, inner, hq, rfl⟩
  | drainInner _ _ _ hph | drainOuter _ hph => simp at hph

/-- A destructor in its loop is that of an inner guard, or that of the scope's. -/
theorem Nested.of_drain (h : Nested base ⟨ph, gs⟩) (hph : ph = .dtorPending ∨ ph = .dtorSigwait) :
    (∃ g inner, g.sigpipeUnblock = false ∧ (∀ g ∈ inner, Quiet g) ∧
      gs = g :: (inner ++ outer :: base)) ∨ gs = outer :: base := by
  cases h with
  | drainInner _ g inner _ hg hq => exact Or.inl ⟨g, inner, hg, hq, rfl⟩
  | drainOuter => exact Or.inr rfl
  | body | ctorBlock | unblock => simp at hph

theorem Nested.of_dtorUnblock (h : Nested base ⟨.dtorUnblock, gs⟩) : gs = outer :: base := by
  cases h with
  | drainInner _ _ _ hph | drainOuter _ hph => simp at hph
  | unblock => rfl

/-- Where the code stands in the loop does not matter. -/
theorem Nested.drain (h : Nested base ⟨ph, gs⟩) (hph : ph = .dtorPending ∨ ph = .dtorSigwait)
    (hph' : ph' = .dtorPending ∨ ph' = .dtorSigwait) : Nested base ⟨ph', gs⟩ := by
  rcases h.of_drain hph with ⟨g, inner, hg, hq, rfl⟩ | rfl
  · exact .drainInner ph' g inner hph' hg hq
  · exact .drainOuter ph' hph'

end Places

/-- **One step inside the scope**: the thread stays inside, and arrives at
`SIG_UNBLOCK` only from a `sigpending()` that reported nothing; or it takes the
outermost destructor's `SIG_UNBLOCK` and is outside. -/
theorem Nested.next (h : Nested base c) (hb : s.blocked = true) (hn : c.next s a = some c') :
    (Nested base c' ∧ a ≠ .dtorUnblock ∧
      (c'.phase = .dtorUnblock → (a = .kill ∨ a = .deliver) ∧ c' = c ∨
        a = .dtorPending ∧ s.sigpending = false)) ∨
    (a = .dtorUnblock ∧ c = ⟨.dtorUnblock, outer :: base⟩ ∧ c' = ⟨.body, base⟩) := by
  cases Control.turn_of_next hn with
  | signal ha => exact Or.inl ⟨h, by rcases ha with rfl | rfl <;> simp, fun _ => Or.inl ⟨ha, rfl⟩⟩
  | own ha gs =>
    refine Or.inl ⟨h, ?_, Phase.noConfusion⟩
    rcases ha with rfl | rfl | rfl | ⟨l, rfl⟩ <;> simp
  | ctorFound u gs hp =>
    obtain ⟨inner, hq, rfl⟩ := h.of_body
    exact Or.inl ⟨.body (⟨true, u⟩ :: inner) (by simpa [Quiet] using hq), by simp, by simp⟩
  | ctorClear u gs hp =>
    obtain ⟨inner, hq, rfl⟩ := h.of_body
    exact Or.inl ⟨.ctorBlock ⟨false, u⟩ inner rfl hq, by simp, by simp⟩
  | ctorBlock g gs =>
    obtain ⟨_, inner, hq, heq⟩ := h.of_ctorBlock
    obtain ⟨rfl, rfl⟩ := List.cons.inj heq
    refine Or.inl ⟨.body ({ g with sigpipeUnblock := !s.blocked } :: inner) ?_, by simp, by simp⟩
    simpa [Quiet, hb] using hq
  | leaveFound g gs hg =>
    obtain ⟨inner, hq, heq⟩ := h.of_body
    rcases List.cons_eq_append_iff.mp heq with ⟨rfl, heq⟩ | ⟨inner', rfl, rfl⟩
    · -- the guard of the scope has found nothing
      obtain ⟨rfl, -⟩ := List.cons.inj heq
      cases hg
    · exact Or.inl ⟨.body inner' (List.forall_mem_cons.mp hq).2, by simp, by simp⟩
  | leave g gs hg =>
    obtain ⟨inner, hq, heq⟩ := h.of_body
    rcases List.cons_eq_append_iff.mp heq with ⟨rfl, heq⟩ | ⟨inner', rfl, rfl⟩
    · obtain ⟨rfl, rfl⟩ := List.cons.inj heq
      exact Or.inl ⟨.drainOuter _ (Or.inl rfl), by simp, by simp⟩
    · obtain ⟨hquiet, hq⟩ := List.forall_mem_cons.mp hq
      have hunblock : g.sigpipeUnblock = false := hquiet.resolve_left (by simp [hg])
      exact Or.inl ⟨.drainInner _ g inner' (Or.inl rfl) hunblock hq, by simp, by simp⟩
  | found g gs hp => exact Or.inl ⟨h.drain (by simp) (by simp), by simp, by simp⟩
  | clear g gs hp hg =>
    rcases h.of_drain (by simp) with ⟨g', inner, hunblock, -, heq⟩ | heq
    · obtain ⟨rfl, -⟩ := List.cons.inj heq
      exact absurd (hg.symm.trans hunblock) (by simp)
    · obtain ⟨rfl, rfl⟩ := List.cons.inj heq
      exact Or.inl ⟨.unblock, by simp, fun _ => Or.inr ⟨rfl, hp⟩⟩
  | done g gs hp hg =>
    rcases h.of_drain (by simp) with ⟨g', inner, -, hq, heq⟩ | heq
    · obtain ⟨-, rfl⟩ := List.cons.inj heq
      exact Or.inl ⟨.body inner hq, by simp, by simp⟩
    · -- the guard of the scope unblocks
      obtain ⟨rfl, -⟩ := List.cons.inj heq
      cases hg
  | sigwait l gs => exact Or.inl ⟨h.drain (by simp) (by simp), by simp, by simp⟩
  | unblock g gs =>
    obtain ⟨rfl, rfl⟩ := List.cons.inj h.of_dtorUnblock
    exact Or.inr ⟨rfl, rfl, rfl⟩

/-! ## The thread inside the scope -/

/-- The outermost constructor has found nothing pending and not yet blocked SIGPIPE.
`n` is the number of the first SIGPIPE the scope may generate and `del` are those
handled before. -/
structure Entering (base : List Guard) (n : ℕ) (del : List ℕ) (x : Thread) : Prop where
  control : ∃ u, x.control = ⟨.ctorBlock, ⟨false, u⟩ :: base⟩
  unblocked : x.own.blocked = false
  log : x.log = ⟨n, [], del⟩

/-- The outermost guard is constructed and has not yet unblocked SIGPIPE. -/
structure Inside (base : List Guard) (n : ℕ) (del : List ℕ) (x : Thread) : Prop where
  nested : Nested base x.control
  blocked : x.own.blocked = true
  generated : n ≤ x.log.generated
  delivered : x.log.delivered = del
  merged : x.control.phase = .dtorUnblock → x.log.merged = []

/-- The outermost destructor has unblocked SIGPIPE. -/
structure Left (base : List Guard) (n : ℕ) (del : List ℕ) (x : Thread) : Prop where
  control : x.control = ⟨.body, base⟩
  unblocked : x.own.blocked = false
  generated : n ≤ x.log.generated
  delivered : x.log.delivered = del
  merged : x.log.merged = []

/-- The numbers from `n` up to `m` are neither pending nor handled. -/
structure Gone (n m : ℕ) (x : Thread) : Prop where
  generated : m ≤ x.log.generated
  merged : ∀ k, n ≤ k → k < m → k ∉ x.log.merged
  delivered : ∀ k, n ≤ k → k < m → k ∉ x.log.delivered

section Thread
variable {base : List Guard} {n m : ℕ} {del : List ℕ} {x y : Thread} {p q : Bool} {a : Action}

/-- A thread that blocks SIGPIPE does so until it unblocks it itself. -/
theorem blocked_of_call {s s' : SigState} (h : s.call a = some s') (ha : a ≠ .unblock)
    (ha' : a ≠ .dtorUnblock) (hb : s.blocked = true) : s'.blocked = true := by
  rw [blocked_call h, hb]
  cases a <;> first | rfl | contradiction

/-- Bookkeeping of a step of a thread that blocks SIGPIPE. -/
theorem note_of_blocked {s : SigState} (g : Log) (hb : s.blocked = true)
    (ha : a ≠ .unblock ∧ a ≠ .dtorUnblock) :
    g.generated ≤ (g.note s a).generated ∧ (g.note s a).delivered = g.delivered := by
  rcases g.note_cases s a with ⟨-, -, he⟩ | ⟨-, hf, -⟩ | he | ⟨hr, -⟩ | ⟨-, he⟩
  · simp [he]
  · exact absurd hb (by simp [hf])
  · simp [he]
  · exact absurd hr (by simp [ha])
  · simp [he]

theorem inside_act (hx : Inside base n del x) (hnum : Numbered x) (ha : a ≠ .unblock)
    (h : x.act p a = some (y, q)) : Inside base n del y ∨ Left base n del y := by
  obtain ⟨hc, hs, hl⟩ := act_iff.mp h
  rcases hx.nested.next (s := x.sig p) hx.blocked hc with ⟨hnest, hne, hph⟩ | ⟨rfl, hcx, hcy⟩
  · left
    obtain ⟨hgen, hdel⟩ := note_of_blocked (s := x.sig p) x.log hx.blocked ⟨ha, hne⟩
    refine ⟨hnest, blocked_of_call hs ha hne hx.blocked, ?_, ?_, fun hy => ?_⟩
    · rw [hl]; exact Nat.le_trans hx.generated hgen
    · rw [hl, hdel, hx.delivered]
    · rcases hph hy with ⟨hact, he⟩ | ⟨rfl, hnone⟩
      · have hm : x.log.merged = [] := hx.merged (he ▸ hy)
        rcases hact with rfl | rfl <;> simpa [hl, Log.note] using hm
      · have hpend : x.own.pending = false := by
          simp [SigState.sigpending, hx.blocked] at hnone; exact hnone.1
        simpa [hl, Log.note] using hnum.merged_nil hpend
  · right
    have hm : x.log.merged = [] := hx.merged (by rw [hcx])
    have hb : y.own.blocked = false := congrArg (·.blocked) (Option.some.inj hs).symm
    exact ⟨hcy, hb, by simpa [hl, Log.note] using hx.generated,
      by simpa [hl, Log.note, hm] using hx.delivered, by simp [hl, Log.note]⟩

/-- From the outermost constructor's `sigpending()` the thread can only go on to its
`SIG_BLOCK`. -/
theorem entering_act (hx : Entering base n del x) (h : x.act p a = some (y, q)) :
    Entering base n del y ∨ Inside base n del y := by
  obtain ⟨hc, hs, hl⟩ := act_iff.mp h
  obtain ⟨u, hx_control⟩ := hx.control
  rw [hx_control] at hc
  cases a with
  | kill | deliver =>
    have hcy : y.control = ⟨.ctorBlock, ⟨false, u⟩ :: base⟩ := (Option.some.inj hc).symm
    exact Or.inl ⟨⟨u, hcy⟩, (blocked_call hs).trans hx.unblocked, hl.trans hx.log⟩
  | ctorBlock =>
    right
    have hcy : y.control = ⟨.body, outer :: base⟩ := by
      simpa [Control.next, hx.unblocked, outer, eq_comm] using hc
    have hb : y.own.blocked = true := congrArg (·.blocked) (Option.some.inj hs).symm
    have hly : y.log = ⟨n, [], del⟩ := hl.trans hx.log
    exact ⟨hcy ▸ .body [] (by simp), hb, by simp [hly], by simp [hly], by simp [hcy]⟩
  | _ => cases hc

/-- `sigpending()` of the outermost constructor reports nothing, since SIGPIPE is not
blocked. -/
theorem entering_of_ctorPending {u : Bool} (hnum : Numbered x) (hb : x.own.blocked = false)
    (h : x.act p (.ctorPending u) = some (y, q)) :
    Entering x.control.guards x.log.generated x.log.delivered y := by
  obtain ⟨hc, hs, hl⟩ := act_iff.mp h
  have hnone : (x.sig p).sigpending = false := by simp [SigState.sigpending, hb]
  have hpend : x.own.pending = false := SigState.pending_eq_false (s := x.sig p) hb
  have hby : y.own.blocked = false := (blocked_call hs).trans hb
  refine ⟨⟨u, ?_⟩, hby, ?_⟩
  · cases hx : x.control with
    | mk ph gs =>
      rw [hx] at hc
      cases ph <;> simp [Control.next, hnone] at hc
      exact hc.symm
  · rw [hl, ← hnum.merged_nil hpend]; rfl

/-- A number that is neither pending nor handled and has been handed out stays so. -/
theorem gone_act (hx : Gone n m x) (h : x.act p a = some (y, q)) : Gone n m y := by
  obtain ⟨-, -, hl⟩ := act_iff.mp h
  have hne : ∀ k, k < m → k ≠ x.log.generated := fun k hk he =>
    absurd hx.generated (by omega)
  rcases x.log.note_cases (x.sig p) a with
    ⟨-, -, he⟩ | ⟨-, -, he⟩ | he | ⟨-, he⟩ | ⟨-, he⟩ <;> rw [he] at hl
  · refine ⟨by rw [hl]; exact Nat.le_succ_of_le hx.generated, fun k hn hm => ?_, fun k hn hm => ?_⟩
    · simpa [hl, hne k hm] using hx.merged k hn hm
    · simpa [hl] using hx.delivered k hn hm
  · refine ⟨by rw [hl]; exact Nat.le_succ_of_le hx.generated, fun k hn hm => ?_, fun k hn hm => ?_⟩
    · simpa [hl] using hx.merged k hn hm
    · simpa [hl, hne k hm] using hx.delivered k hn hm
  · exact ⟨by simpa [hl] using hx.generated, by simp [hl], by simpa [hl] using hx.delivered⟩
  · refine ⟨by simpa [hl] using hx.generated, by simp [hl], fun k hn hm => ?_⟩
    simp [hl, hx.merged k hn hm, hx.delivered k hn hm]
  · exact ⟨by simpa [hl] using hx.generated, by simpa [hl] using hx.merged,
      by simpa [hl] using hx.delivered⟩

end Thread

/-! ## The scope among other threads -/

variable {T : Type*} [DecidableEq T]

/-- The steps of a scope of thread `t` that was entered with `d` guards live: the guard
of the scope is live, and `t` does not unblock SIGPIPE except through guards. -/
def InScope (t : T) (d : ℕ) (s : State T) (e : Event T) : Prop :=
  d < (s.thread t).control.guards.length ∧ e ≠ .act t .unblock

instance (t : T) (d : ℕ) (s : State T) (e : Event T) : Decidable (InScope t d s e) :=
  inferInstanceAs (Decidable (_ ∧ _))

/-- Where a thread can be in a run of its scope. -/
theorem scope_cases {t : T} {base : List Guard} {n : ℕ} {del : List ℕ} {s₁ s : State T}
    {es : List (Event T)} (hnum : Numbered (s₁.thread t))
    (hin : Entering base n del (s₁.thread t))
    (hrun : Run (Guarded (Fires step) (InScope t base.length)) s₁ es s) :
    Numbered (s.thread t) ∧
      (Entering base n del (s.thread t) ∨ Inside base n del (s.thread t) ∨
        Left base n del (s.thread t)) := by
  refine hrun.invariant (I := fun s => Numbered (s.thread t) ∧
    (Entering base n del (s.thread t) ∨ Inside base n del (s.thread t) ∨
      Left base n del (s.thread t))) ?_ ⟨hnum, Or.inl hin⟩
  rintro s e s' ⟨hs, hcase⟩ ⟨hstep, hopen, hmask⟩
  rcases step_thread hstep t with hsame | ⟨a, rfl, hact⟩
  · rw [hsame]; exact ⟨hs, hcase⟩
  · refine ⟨numbered_act hs hact, ?_⟩
    rcases hcase with hent | hins | hleft
    · exact (entering_act hent hact).imp id Or.inl
    · exact Or.inr (inside_act hins hs (fun ha => hmask (by rw [ha])) hact)
    · rw [hleft.control] at hopen
      exact absurd hopen (Nat.lt_irrefl _)

/-- **SIGPIPE in an outermost scope.**  Thread `t` enters a scope with SIGPIPE unblocked
(`s₀` to `s₁`); the run from `s₁` to `s` is inside that scope or up to its end.

* As long as the guard is live and its constructor has returned, SIGPIPE is blocked
  in `t`.
* No SIGPIPE that `t` generated inside the scope has been handled.
* When the guard is gone, SIGPIPE is unblocked in `t` as it was at entry, and no
  later run from there handles a SIGPIPE that `t` generated inside the scope. -/
theorem scope_masks_sigpipe {t : T} {uninit : Bool} {s₀ s₁ s : State T} {es : List (Event T)}
    (hs₀ : Reachable (Fires step) Initial s₀)
    (hmask : (s₀.thread t).own.blocked = false)
    (henter : step s₀ (.act t (.ctorPending uninit)) = some s₁)
    (hrun : Run (Guarded (Fires step) (InScope t (s₀.thread t).control.guards.length)) s₁ es s) :
    (((s₀.thread t).control.guards.length < (s.thread t).control.guards.length ∧
        ¬ ((s.thread t).control.phase = .ctorBlock ∧
          (s.thread t).control.guards.length = (s₀.thread t).control.guards.length + 1)) →
      (s.thread t).own.blocked = true) ∧
    (∀ k, (s₀.thread t).log.generated ≤ k → k ∉ (s.thread t).log.delivered) ∧
    ((s.thread t).control.guards.length = (s₀.thread t).control.guards.length →
      (s.thread t).own.blocked = false ∧
      ∀ es' s', Run (Fires step) s es' s' →
        ∀ k, (s₀.thread t).log.generated ≤ k → k < (s.thread t).log.generated →
          k ∉ (s'.thread t).log.delivered) := by
  have hnum₀ := numbered_of_reachable hs₀ t
  have hact := (step_act henter).1
  have hent := entering_of_ctorPending hnum₀ hmask hact
  obtain ⟨hnum, hcase⟩ := scope_cases (numbered_act hnum₀ hact) hent hrun
  have hold : ∀ k, (s₀.thread t).log.generated ≤ k → k ∉ (s₀.thread t).log.delivered :=
    fun k hk hmem => absurd (hnum₀.delivered_lt k hmem) (by omega)
  have hdel : (s.thread t).log.delivered = (s₀.thread t).log.delivered := by
    rcases hcase with h | h | h
    · rw [h.log]
    · exact h.delivered
    · exact h.delivered
  refine ⟨fun ⟨hopen, hbuilt⟩ => ?_, fun k hk => hdel ▸ hold k hk, fun hclosed => ?_⟩
  · rcases hcase with h | h | h
    · obtain ⟨u, hc⟩ := h.control
      exact absurd ⟨by rw [hc], by rw [hc]; rfl⟩ hbuilt
    · exact h.blocked
    · rw [h.control] at hopen
      exact absurd hopen (Nat.lt_irrefl _)
  · rcases hcase with h | h | h
    · obtain ⟨u, hc⟩ := h.control
      rw [hc] at hclosed
      exact absurd hclosed (by simp)
    · exact absurd hclosed (Nat.ne_of_gt h.nested.length_lt)
    · refine ⟨h.unblocked, fun es' s' hrun' k hk hlt => ?_⟩
      have hgone : Gone (s₀.thread t).log.generated (s.thread t).log.generated (s.thread t) :=
        ⟨Nat.le_refl _, by simp [h.merged], fun k hk _ => hdel ▸ hold k hk⟩
      refine (hrun'.invariant (I := fun s' => Gone _ _ (s'.thread t)) ?_ hgone).delivered k hk hlt
      intro r e r' hr hstep
      rcases step_thread hstep t with hsame | ⟨a, -, hact⟩
      · exact hsame ▸ hr
      · exact gone_act hr hact

/-- Thread `false` generates a SIGPIPE in its scope while thread `true` is inside a
guard of its own and a process-directed SIGPIPE arrives between them. -/
theorem scope_masks_sigpipe_two_threads :
    let s₁ : State Bool := (step start (.act false (.ctorPending true))).getD start
    let es : List (Event Bool) :=
      [.act true (.ctorPending false), .act false .ctorBlock, .act true .ctorBlock,
        .act false .generate, .arrive, .act false .leave, .act false .dtorPending,
        .act false (.dtorSigwait .process), .act false .dtorPending,
        .act false (.dtorSigwait .thread), .act false .dtorPending, .act false .dtorUnblock]
    let s : State Bool := (replay (restrict step (InScope false 0)) s₁ es).getD start
    (s.thread false).log.generated = 1 ∧ (s.thread false).own.blocked = false ∧
    ∀ es' s', Run (Fires step) s es' s' → ∀ k, 0 ≤ k → k < 1 →
      k ∉ (s'.thread false).log.delivered := by
  intro s₁ es s
  have henter : step start (.act false (.ctorPending true)) = some s₁ := rfl
  have hrun : Run (Guarded (Fires step) (InScope false 0)) s₁ es s :=
    run_guarded_of_replay rfl
  exact ⟨rfl, (scope_masks_sigpipe (.initial initial_start) rfl henter hrun).2.2 rfl⟩

end SimpleTests.Sigpipe
