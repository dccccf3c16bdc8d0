import SimpleTests.SigpipeWait

/-! # The destructor's loop under further arrivals

A thread is in a destructor, behind the test of `m_sigpipe_pending`, and SIGPIPEs go on
arriving: for the thread or for the process, between any two calls of the destructor.  No
other thread takes one (`Alone`).

Each `sigwait()` takes one pending SIGPIPE, and each arrival adds one at most, so the loop
ends when the arrivals do: after no more `sigwait()` calls than there were pending flags
and arrivals (`waits_le`).  What the final `SIG_UNBLOCK` delivers came after the last
`sigpending()`, which found nothing (`arrived_since_check`).
-/
namespace SimpleTests.Sigpipe
open Transition

variable {T : Type*}

/-! ## The calls of a destructor -/

/-- The calls of a destructor. -/
def Action.InDtor : Action → Prop
  | .dtorPending | .dtorSigwait _ | .dtorUnblock => True
  | _ => False

/-- The event is an arrival, a call of the destructor of `t`, or a step of another thread
that does not take the process-directed SIGPIPE. -/
def Alone (t : T) (s : State T) : Event T → Prop
  | .arrive => True
  | .act u a => (u = t → a = .kill ∨ a.InDtor) ∧
      (u ≠ t → ((s.thread u).sig s.process).takesProcess a = false)

/-- Thread `t` enters the loop: the constructor has found nothing pending and has blocked
SIGPIPE. -/
structure Entered (t : T) (s : State T) : Prop where
  phase : (s.thread t).control.phase = .dtorPending
  guards : (s.thread t).control.guards ≠ []
  blocked : (s.thread t).own.blocked = true

section Take
variable {s : SigState}

/-- What `sigpending()` reports can be taken. -/
theorem take_of_sigpending (h : s.sigpending = true) : ∃ l, (s.take l).isSome = true := by
  simp only [SigState.sigpending, Bool.and_eq_true, Bool.or_eq_true] at h
  rcases h.2 with hp | hp
  · exact ⟨.thread, by simp [SigState.take, hp]⟩
  · exact ⟨.process, by simp [SigState.take, hp]⟩

theorem sigwait_of_sigpending (h : s.sigpending = true) : s.sigwait ≠ none := by
  intro hnone
  obtain ⟨hthread, hprocess⟩ := Option.or_eq_none_iff.mp hnone
  obtain ⟨l, hl⟩ := take_of_sigpending h
  cases l with
  | thread => simp [hthread] at hl
  | process => simp [hprocess] at hl

end Take

variable [DecidableEq T]

/-! ## One step -/

/-- The steps of a draining thread and its environment. -/
abbrev Drains (t : T) : State T → Event T → State T → Prop := Guarded (Fires step) (Alone t)

/-- What a step can do to the draining thread `t` and to the process-directed flag. -/
inductive DrainTurn (t : T) (s s' : State T) : Event T → Prop
  | arrive (hx : s'.thread t = s.thread t) (hp : s'.process = true) : DrainTurn t s s' .arrive
  | other (u : T) (a : Action) (hu : u ≠ t) (hx : s'.thread t = s.thread t)
      (hp : s'.process = s.process) : DrainTurn t s s' (.act u a)
  | kill (hc : (s'.thread t).control = (s.thread t).control)
      (hsig : (s'.thread t).sig s'.process = ((s.thread t).sig s.process).generate) :
      DrainTurn t s s' (.act t .kill)
  | found (hph : (s.thread t).control.phase = .dtorPending)
      (hpend : ((s.thread t).sig s.process).sigpending = true)
      (hc : (s'.thread t).control = ⟨.dtorSigwait, (s.thread t).control.guards⟩)
      (hown : (s'.thread t).own = (s.thread t).own) (hp : s'.process = s.process) :
      DrainTurn t s s' (.act t .dtorPending)
  | clear (hph : (s.thread t).control.phase = .dtorPending)
      (hpend : ((s.thread t).sig s.process).sigpending = false)
      (hc : (s'.thread t).control = ⟨.dtorUnblock, (s.thread t).control.guards⟩ ∨
        (s'.thread t).control.phase = .body)
      (hown : (s'.thread t).own = (s.thread t).own) (hp : s'.process = s.process) :
      DrainTurn t s s' (.act t .dtorPending)
  | wait (l : Level) (hph : (s.thread t).control.phase = .dtorSigwait)
      (hc : (s'.thread t).control = ⟨.dtorPending, (s.thread t).control.guards⟩)
      (htake : ((s.thread t).sig s.process).take l = some ((s'.thread t).sig s'.process)) :
      DrainTurn t s s' (.act t (.dtorSigwait l))
  | unblock (hph : (s.thread t).control.phase = .dtorUnblock)
      (hc : (s'.thread t).control.phase = .body) (hpend : (s'.thread t).own.pending = false)
      (hp : s'.process = false) : DrainTurn t s s' (.act t .dtorUnblock)

variable {t : T} {s s' s₀ : State T} {e : Event T} {es : List (Event T)}

theorem own_eq_of_sig {x y : Thread} {p q : Bool} (h : x.sig p = y.sig q) :
    y.own = x.own ∧ q = p :=
  ⟨(congrArg SigState.toThreadSig h).symm, (congrArg SigState.processPending h).symm⟩

/-- **What a step can do** while no other thread takes a SIGPIPE. -/
theorem drainTurn (h : Drains t s e s') : DrainTurn t s s' e := by
  obtain ⟨hstep, halone⟩ := h
  cases e with
  | arrive =>
    cases hstep
    exact .arrive rfl rfl
  | act u a =>
    obtain ⟨hact, hother⟩ := step_act hstep
    obtain ⟨hown, hforeign⟩ := halone
    obtain ⟨hc, hcall, -⟩ := act_iff.mp hact
    by_cases hu : u = t
    · subst hu
      rcases hown rfl with rfl | hdtor
      · exact .kill (Option.some.inj hc).symm (Option.some.inj hcall).symm
      · have hturn := Control.turn_of_next hc
        generalize hx : (s.thread u).control = c at hturn
        generalize hy : (s'.thread u).control = c' at hturn
        cases hturn with
        | signal ha =>
          rcases ha with rfl | rfl
          · exact hdtor.elim
          · exact hdtor.elim
        | own ha =>
          rcases ha with rfl | rfl | rfl | ⟨l, rfl⟩ <;> exact hdtor.elim
        | ctorFound | ctorClear | ctorBlock | leaveFound | leave => exact hdtor.elim
        | found g gs hpend =>
          obtain ⟨hsame, hp⟩ := own_eq_of_sig (Option.some.inj hcall)
          exact .found (by rw [hx]) hpend (by rw [hx, hy]) hsame hp
        | clear g gs hpend =>
          obtain ⟨hsame, hp⟩ := own_eq_of_sig (Option.some.inj hcall)
          exact .clear (by rw [hx]) hpend (Or.inl (by rw [hx, hy])) hsame hp
        | done g gs hpend =>
          obtain ⟨hsame, hp⟩ := own_eq_of_sig (Option.some.inj hcall)
          exact .clear (by rw [hx]) hpend (Or.inr (by rw [hy])) hsame hp
        | sigwait l gs => exact .wait l (by rw [hx]) (by rw [hx, hy]) hcall
        | unblock g gs =>
          have hclear := Option.some.inj hcall
          exact .unblock (by rw [hx]) (by rw [hy])
            (congrArg (fun x : SigState => x.pending) hclear).symm
            (congrArg SigState.processPending hclear).symm
    · exact .other u a hu (hother t (Ne.symm hu)) (processPending_of_not_takes hcall (hforeign hu))

/-! ## The loop invariant -/

/-- **The loop invariant**: until SIGPIPE is unblocked the thread blocks it and has its
guard, and before `sigwait()` there is something to wait for. -/
structure Draining (t : T) (s : State T) : Prop where
  phase : (s.thread t).control.phase ≠ .ctorBlock
  guards : (s.thread t).control.phase ≠ .body → (s.thread t).control.guards ≠ []
  blocked : (s.thread t).control.phase ≠ .body → (s.thread t).own.blocked = true
  wait : (s.thread t).control.phase = .dtorSigwait →
    ((s.thread t).sig s.process).sigpending = true

omit [DecidableEq T] in
theorem Entered.draining (h : Entered t s) : Draining t s := by
  refine ⟨?_, fun _ => h.guards, fun _ => h.blocked, fun hph => ?_⟩
  · rw [h.phase]
    exact Phase.noConfusion
  · rw [h.phase] at hph
    cases hph

omit [DecidableEq T] in
theorem draining_of_body (h : (s.thread t).control.phase = .body) : Draining t s := by
  refine ⟨?_, fun hph => absurd h hph, fun hph => absurd h hph, fun hph => ?_⟩
  · rw [h]
    exact Phase.noConfusion
  · rw [h] at hph
    cases hph

omit [DecidableEq T] in
/-- The thread goes on to another place in the destructor. -/
theorem Draining.move (h : Draining t s) (hbody : (s.thread t).control.phase ≠ .body) {ph : Phase}
    (hph : ph ≠ .ctorBlock) (hc : (s'.thread t).control = ⟨ph, (s.thread t).control.guards⟩)
    (hb : (s'.thread t).own.blocked = (s.thread t).own.blocked)
    (hwait : ph = .dtorSigwait → ((s'.thread t).sig s'.process).sigpending = true) :
    Draining t s' := by
  refine ⟨?_, fun _ => ?_, fun _ => ?_, fun hph' => ?_⟩
  · rw [hc]
    exact hph
  · rw [hc]
    exact h.guards hbody
  · rw [hb]
    exact h.blocked hbody
  · rw [hc] at hph'
    exact hwait hph'

theorem draining_step (h : Draining t s) (hs : Drains t s e s') : Draining t s' := by
  have inside : ∀ {ph}, (s.thread t).control.phase = ph → ph ≠ .body →
      (s.thread t).control.phase ≠ .body := fun heq hne => heq ▸ hne
  cases drainTurn hs with
  | arrive hx hp =>
    have hblocked : (s'.thread t).control.phase ≠ .body → (s'.thread t).own.blocked = true :=
      hx ▸ h.blocked
    refine ⟨hx ▸ h.phase, hx ▸ h.guards, hblocked, fun hph => ?_⟩
    have hb := hblocked (by rw [hph]; exact Phase.noConfusion)
    simp [SigState.sigpending, hb, hp]
  | other u a hu hx hp =>
    exact ⟨hx ▸ h.phase, hx ▸ h.guards, hx ▸ h.blocked, hx ▸ hp ▸ h.wait⟩
  | kill hc hsig =>
    have hb : (s'.thread t).own.blocked = (s.thread t).own.blocked := by
      simpa using congrArg (fun x : SigState => x.blocked) hsig
    refine ⟨hc ▸ h.phase, hc ▸ h.guards, fun hph => ?_, fun hph => ?_⟩
    · rw [hb]
      exact h.blocked (hc ▸ hph)
    · rw [hsig]
      apply SigState.sigpending_generate
      exact h.blocked (by rw [← hc, hph]; exact Phase.noConfusion)
  | found hph hpend hc hown hp =>
    refine h.move (inside hph Phase.noConfusion) Phase.noConfusion hc (by rw [hown]) fun _ => ?_
    rw [Thread.sig, hown, hp]
    exact hpend
  | clear hph hpend hc hown hp =>
    rcases hc with hc | hc
    · exact h.move (inside hph Phase.noConfusion) Phase.noConfusion hc (by rw [hown])
        Phase.noConfusion
    · exact draining_of_body hc
  | wait l hph hc htake =>
    exact h.move (inside hph Phase.noConfusion) Phase.noConfusion hc
      (blocked_call (a := .dtorSigwait l) htake) Phase.noConfusion
  | unblock hph hc hpend hp => exact draining_of_body hc

/-! ## Counting -/

/-- The arrivals that concern thread `t`. -/
def Event.arrives (t : T) : Event T → Bool
  | .arrive => true
  | .act u .kill => u = t
  | .act _ _ => false

/-- The `sigwait()` calls in the destructor of `t`. -/
def Event.waits (t : T) : Event T → Bool
  | .act u (.dtorSigwait _) => u = t
  | _ => false

/-- The `sigpending()` calls in the destructor of `t`. -/
def Event.checks (t : T) : Event T → Bool
  | .act u .dtorPending => u = t
  | _ => false

/-- How many SIGPIPEs thread `t` can wait for. -/
def State.pendingFor (t : T) (s : State T) : ℕ :=
  (s.thread t).own.pending.toNat + s.process.toNat

theorem act_of_ne {u : T} (hu : u ≠ t) (a : Action) : (Event.act u a).arrives t = false ∧
    (Event.act u a).waits t = false ∧ (Event.act u a).checks t = false := by
  cases a <;> simp [Event.arrives, Event.waits, Event.checks, hu]

/-- Each `sigwait()` takes one SIGPIPE, each arrival adds one at most. -/
theorem pendingFor_step (s : State T) (e : Event T) (s' : State T) (hs : Drains t s e s') :
    s'.pendingFor t + (e.waits t).toNat ≤ s.pendingFor t + (e.arrives t).toNat := by
  unfold State.pendingFor
  cases drainTurn hs with
  | arrive hx hp =>
    rw [hx, hp]
    simp [Event.waits, Event.arrives]
  | other u a hu hx hp =>
    obtain ⟨ha, hw, -⟩ := act_of_ne hu a
    rw [hx, hp, ha, hw]
  | kill hc hsig =>
    have hp : s'.process = s.process := by
      simpa using congrArg SigState.processPending hsig
    have hle := (s'.thread t).own.pending.toNat_le
    rw [hp]
    simp only [Event.waits, Event.arrives, decide_true, Bool.toNat_true, Bool.toNat_false]
    omega
  | found hph hpend hc hown hp | clear hph hpend hc hown hp =>
    rw [hown, hp]
    exact Nat.le_refl _
  | wait l hph hc htake =>
    simp only [Event.waits, Event.arrives, decide_true, Bool.toNat_true, Bool.toNat_false]
    obtain ⟨-, ⟨-, hp, hp', hq⟩ | ⟨-, hq, hq', hp⟩⟩ := SigState.take_cases htake
    · have hp : (s.thread t).own.pending = true := hp
      have hp' : (s'.thread t).own.pending = false := hp'
      have hq : s'.process = s.process := hq
      rw [hp, hp', hq, Bool.toNat_true, Bool.toNat_false]
      omega
    · have hq : s.process = true := hq
      have hq' : s'.process = false := hq'
      have hp : (s'.thread t).own.pending = (s.thread t).own.pending := hp
      rw [hq, hq', hp, Bool.toNat_true, Bool.toNat_false]
  | unblock hph hc hpend hp =>
    rw [hpend, hp]
    exact Nat.zero_le _

/-- Whether thread `t` is about to check. -/
def State.checking (t : T) (s : State T) : ℕ :=
  if (s.thread t).control.phase = .dtorPending then 1 else 0

/-- Each `sigpending()` but the first comes behind a `sigwait()`. -/
theorem checking_step (s : State T) (e : Event T) (s' : State T) (hs : Drains t s e s') :
    s'.checking t + (e.checks t).toNat ≤ s.checking t + (e.waits t).toNat := by
  unfold State.checking
  cases drainTurn hs with
  | arrive hx hp =>
    rw [hx]
    exact Nat.le_refl _
  | other u a hu hx hp =>
    obtain ⟨-, hw, hc⟩ := act_of_ne hu a
    rw [hx, hw, hc]
  | kill hc hsig =>
    rw [hc]
    exact Nat.le_refl _
  | found hph hpend hc hown hp =>
    rw [hph, hc, if_pos rfl, if_neg Phase.noConfusion]
    simp [Event.checks]
  | clear hph hpend hc hown hp =>
    have hne : (s'.thread t).control.phase ≠ .dtorPending := by
      rcases hc with hc | hc <;> rw [hc] <;> exact Phase.noConfusion
    rw [hph, if_pos rfl, if_neg hne]
    simp [Event.checks]
  | wait l hph hc htake =>
    rw [hph, hc, if_pos rfl, if_neg Phase.noConfusion]
    simp [Event.checks, Event.waits]
  | unblock hph hc hpend hp =>
    rw [hph, hc, if_neg Phase.noConfusion, if_neg Phase.noConfusion]
    exact Nat.le_refl _

/-! ## What is left for the unblock -/

/-- A flag that is set in `s'` was set in `s`, or has an arrival in `es`. -/
structure Since (t : T) (s : State T) (es : List (Event T)) (s' : State T) : Prop where
  thread : (s'.thread t).own.pending = true → (s.thread t).own.pending = true ∨ .act t .kill ∈ es
  process : s'.process = true → s.process = true ∨ .arrive ∈ es

/-- What holds now held before, or one of the events is `x`. -/
theorem or_mem_cons {α : Type*} {x e : α} {es : List α} {p q r : Prop}
    (h : q → p ∨ x ∈ [e]) (h' : r → q ∨ x ∈ es) (hr : r) : p ∨ x ∈ e :: es := by
  rcases h' hr with hq | hmem
  · rcases h hq with hp | hmem
    · exact Or.inl hp
    · exact Or.inr (List.mem_cons.mpr (Or.inl (List.mem_singleton.mp hmem)))
  · exact Or.inr (List.mem_cons_of_mem _ hmem)

omit [DecidableEq T] in
theorem Since.cons {m : State T} (h : Since t s [e] m) (h' : Since t m es s') :
    Since t s (e :: es) s' where
  thread := or_mem_cons h.thread h'.thread
  process := or_mem_cons h.process h'.process

omit [DecidableEq T] in
/-- Each flag that a step sets is that of an arrival. -/
theorem since_step (h : DrainTurn t s s' e) : Since t s [e] s' := by
  cases h with
  | arrive hx hp =>
    constructor
    · intro hset
      exact Or.inl (hx ▸ hset)
    · intro hset
      exact Or.inr List.mem_cons_self
  | other u a hu hx hp =>
    constructor
    · intro hset
      exact Or.inl (hx ▸ hset)
    · intro hset
      exact Or.inl (hp ▸ hset)
  | kill hc hsig =>
    have hp : s'.process = s.process := by
      simpa using congrArg SigState.processPending hsig
    exact ⟨fun _ => Or.inr List.mem_cons_self, fun hset => Or.inl (hp ▸ hset)⟩
  | found hph hpend hc hown hp | clear hph hpend hc hown hp =>
    exact ⟨fun hset => Or.inl (hown ▸ hset), fun hset => Or.inl (hp ▸ hset)⟩
  | wait l hph hc htake =>
    obtain ⟨-, ⟨-, hp, -, hq⟩ | ⟨-, hq, -, hp⟩⟩ := SigState.take_cases htake
    · exact ⟨fun _ => Or.inl hp, fun hset => Or.inl (hq.symm.trans hset)⟩
    · exact ⟨fun hset => Or.inl (hp.symm.trans hset), fun _ => Or.inl hq⟩
  | unblock hph hc hpend hp =>
    constructor
    · intro hset
      exact absurd (hpend.symm.trans hset) (by simp)
    · intro hset
      exact absurd (hp.symm.trans hset) (by simp)

/-- **What the final unblock can deliver has arrived since the last check**, if the run
has a check at all: the check before it found nothing pending. -/
theorem arrived_since_check (hdr : Draining t s) (hrun : Run (Drains t) s es s')
    (hph : (s'.thread t).control.phase = .dtorUnblock) :
    ((s.thread t).control.phase = .dtorUnblock ∧ .act t .dtorPending ∉ es ∧ Since t s es s') ∨
    ∃ before after, es = before ++ .act t .dtorPending :: after ∧
      .act t .dtorPending ∉ after ∧
      ((s'.thread t).own.pending = true → .act t .kill ∈ after) ∧
      (s'.process = true → .arrive ∈ after) := by
  induction hrun with
  | nil s =>
    exact Or.inl ⟨hph, List.not_mem_nil, fun hp => Or.inl hp, fun hp => Or.inl hp⟩
  | @cons s m s' e es hs hr ih =>
    have hone : Since t s [e] m := since_step (drainTurn hs)
    rcases ih (draining_step hdr hs) hph with ⟨hm, hno, hsince⟩ | ⟨before, after, rfl, hrest⟩
    · have keep : e ≠ .act t .dtorPending → .act t .dtorPending ∉ e :: es := fun hne =>
        List.not_mem_cons_of_ne_of_not_mem (Ne.symm hne) hno
      cases drainTurn hs with
      | arrive hx => exact Or.inl ⟨hx ▸ hm, keep (by simp), hone.cons hsince⟩
      | other u a hu hx =>
        exact Or.inl ⟨hx ▸ hm, keep fun heq => hu (Event.act.inj heq).1, hone.cons hsince⟩
      | kill hc => exact Or.inl ⟨hc ▸ hm, keep (by simp), hone.cons hsince⟩
      | clear hph' hpend hc hown hp =>
        -- this is the last check, and it has found nothing
        have hb := hdr.blocked (by rw [hph']; exact Phase.noConfusion)
        simp only [SigState.sigpending, Thread.sig_blocked, hb, Bool.true_and,
          Bool.or_eq_false_iff, Thread.sig_pending, Thread.sig_processPending] at hpend
        obtain ⟨hown', hq⟩ := hpend
        refine Or.inr ⟨[], es, rfl, hno, ?_, ?_⟩
        · intro hset
          rcases hsince.thread hset with hset | hmem
          · rw [hown, hown'] at hset
            cases hset
          · exact hmem
        · intro hset
          rcases hsince.process hset with hset | hmem
          · rw [hp, hq] at hset
            cases hset
          · exact hmem
      | found _ _ hc | wait _ _ hc | unblock _ hc =>
        rw [hc] at hm
        cases hm
    · exact Or.inr ⟨e :: before, after, rfl, hrest⟩

/-! ## The loop ends -/

/-- Until it is through, the destructor can make its next call. -/
theorem Draining.progress (h : Draining t s) (hph : (s.thread t).control.phase ≠ .body) :
    ∃ a s', a.InDtor ∧ step s (.act t a) = some s' := by
  have makes : ∀ a, ((s.thread t).control.next ((s.thread t).sig s.process) a).isSome = true →
      (((s.thread t).sig s.process).call a).isSome = true → ∃ s', step s (.act t a) = some s' := by
    intro a hnext hcall
    obtain ⟨c, hc⟩ := Option.isSome_iff_exists.mp hnext
    obtain ⟨x, hx⟩ := Option.isSome_iff_exists.mp hcall
    simp [step, Thread.act, hc, hx]
  have hguards := h.guards hph
  have hctor := h.phase
  have hwait := h.wait
  rcases hcontrol : (s.thread t).control with ⟨ph, gs⟩
  rw [hcontrol] at makes hph hguards hctor hwait
  obtain ⟨g, gs, rfl⟩ := List.exists_cons_of_ne_nil hguards
  cases ph with
  | body => exact absurd rfl hph
  | ctorBlock => exact absurd rfl hctor
  | dtorPending =>
    have hnext : (Control.next ((s.thread t).sig s.process) .dtorPending
        ⟨.dtorPending, g :: gs⟩).isSome = true := by
      simp only [Control.next]
      split
      · rfl
      · split <;> rfl
    exact ⟨.dtorPending, _, trivial, (makes .dtorPending hnext rfl).choose_spec⟩
  | dtorSigwait =>
    obtain ⟨l, htake⟩ := take_of_sigpending (hwait rfl)
    exact ⟨.dtorSigwait l, _, trivial, (makes (.dtorSigwait l) rfl htake).choose_spec⟩
  | dtorUnblock => exact ⟨.dtorUnblock, _, trivial, (makes .dtorUnblock rfl rfl).choose_spec⟩

/-- **The loop ends, if no other thread takes a SIGPIPE.**  From wherever the thread enters
its destructor, in every run of it and its environment: a `sigwait()` does not block; there
are at most two more of them than arrivals, and one more `sigpending()` than those; the next
call can be made until the destructor is through; and a SIGPIPE that is pending when it
comes to unblock has arrived since the last `sigpending()`. -/
theorem drain_ends (h0 : Entered t s₀) (hrun : Run (Drains t) s₀ es s) :
    ((s.thread t).control.phase = .dtorSigwait →
      ((s.thread t).sig s.process).sigwait ≠ none) ∧
    es.countP (Event.waits t) ≤ 2 + es.countP (Event.arrives t) ∧
    es.countP (Event.checks t) ≤ es.countP (Event.waits t) + 1 ∧
    ((s.thread t).control.phase ≠ .body → ∃ a s', a.InDtor ∧ step s (.act t a) = some s') ∧
    ((s.thread t).control.phase = .dtorUnblock →
      ∃ before after, es = before ++ .act t .dtorPending :: after ∧
        .act t .dtorPending ∉ after ∧
        ((s.thread t).own.pending = true → .act t .kill ∈ after) ∧
        (s.process = true → .arrive ∈ after)) := by
  have hdr : Draining t s := hrun.invariant (fun _ _ _ => draining_step) h0.draining
  refine ⟨?_, ?_, ?_, hdr.progress, ?_⟩
  · intro hph
    exact sigwait_of_sigpending (hdr.wait hph)
  · have hcount := hrun.countP_le pendingFor_step
    have hthread := (s₀.thread t).own.pending.toNat_le
    have hprocess := s₀.process.toNat_le
    have hstart : s₀.pendingFor t = (s₀.thread t).own.pending.toNat + s₀.process.toNat := rfl
    omega
  · have hcount := hrun.countP_le checking_step
    have hstart : s₀.checking t = 1 := if_pos h0.phase
    omega
  · intro hph
    rcases arrived_since_check h0.draining hrun hph with ⟨hstart, -⟩ | hcheck
    · rw [h0.phase] at hstart
      cases hstart
    · exact hcheck

/-! ## A drain with three arrivals -/

instance : DecidablePred Action.InDtor
  | .dtorPending | .dtorSigwait _ | .dtorUnblock => .isTrue trivial
  | .generate | .kill | .deliver | .block | .unblock | .sigwait _ | .ctorPending _ | .ctorBlock
  | .leave => .isFalse id

instance (t : T) (s : State T) : ∀ e, Decidable (Alone t s e)
  | .arrive => .isTrue trivial
  | .act u a => inferInstanceAs (Decidable ((u = t → a = .kill ∨ a.InDtor) ∧
      (u ≠ t → ((s.thread u).sig s.process).takesProcess a = false)))

/-- One thread that has entered its destructor. -/
def leaving : State Unit :=
  (replay step start [.act () (.ctorPending false), .act () .ctorBlock, .act () .leave]).getD start

/-- Both sets get a SIGPIPE, and after the last check the process's gets another one. -/
def arriving : List (Event Unit) :=
  [.arrive, .act () .dtorPending, .act () .kill, .act () (.dtorSigwait .thread),
    .act () .dtorPending, .act () (.dtorSigwait .process), .act () .dtorPending, .arrive]

theorem drain_ends_arriving :
    arriving.countP (Event.waits ()) ≤ 2 + arriving.countP (Event.arrives ()) ∧
    ∃ before after, arriving = before ++ .act () .dtorPending :: after ∧ .arrive ∈ after := by
  have h0 : Entered () leaving := ⟨rfl, by decide, rfl⟩
  have hrun : Run (Drains ()) leaving arriving
      ((replay (restrict step (Alone ())) leaving arriving).getD leaving) :=
    run_guarded_of_replay rfl
  obtain ⟨-, hwaits, -, -, hsince⟩ := drain_ends h0 hrun
  obtain ⟨before, after, heq, -, -, hprocess⟩ := hsince rfl
  exact ⟨hwaits, before, after, heq, hprocess rfl⟩

end SimpleTests.Sigpipe
