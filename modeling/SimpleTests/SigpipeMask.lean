import SimpleTests.SigpipeThreads

/-! # The mask is what the guards make it

A thread may leave its mask to its guards, which come and go in nested scopes.  Then it has
SIGPIPE blocked if and only if it started so or a guard of its own is alive, whatever the other
threads do, whatever it generates or accepts on its own, and however many guards have come and
gone (`blocked_iff_guards`).

The reason is what a constructor samples.  A guard that found nothing pending remembers whether
SIGPIPE was blocked, that is whether it is the first one alive of a thread that started
unblocked; a guard that found a SIGPIPE pending is never such a one (`Sampled`).  So the
destructors that unblock are those of the last guard alive.
-/
namespace SimpleTests.Sigpipe
open Transition

/-- The live guards whose constructor has returned. -/
def Control.built (c : Control) : List Guard :=
  if c.phase = .ctorBlock then c.guards.tail else c.guards

/-- Whether SIGPIPE is blocked while the guards `gs` are alive, if it was `b` at the start. -/
def covered (b : Bool) (gs : List Guard) : Bool := b || !gs.isEmpty

/-- What the guards have sampled, innermost first. -/
def Sampled (b : Bool) : List Guard → Prop
  | [] => True
  | g :: gs =>
    (if g.sigpipePending then covered b gs = true else g.sigpipeUnblock = !covered b gs) ∧
      Sampled b gs

section Sampled
variable {b : Bool} {g : Guard} {gs : List Guard}

@[simp] theorem covered_cons : covered b (g :: gs) = true := by simp [covered]

theorem Sampled.tail (h : Sampled b (g :: gs)) : Sampled b gs := h.2

theorem Sampled.of_pending (h : Sampled b (g :: gs)) (hg : g.sigpipePending = true) :
    covered b gs = true := by
  have hhead := h.1
  rwa [if_pos hg] at hhead

theorem Sampled.of_clear (h : Sampled b (g :: gs)) (hg : g.sigpipePending = false) :
    g.sigpipeUnblock = !covered b gs := by
  have hhead := h.1
  rwa [if_neg (by simp [hg])] at hhead

theorem sampled_pending {u : Bool} (hb : covered b gs = true) (h : Sampled b gs) :
    Sampled b (⟨true, u⟩ :: gs) := ⟨by rw [if_pos rfl]; exact hb, h⟩

theorem sampled_clear (h : Sampled b gs) : Sampled b (⟨false, !covered b gs⟩ :: gs) :=
  ⟨by rw [if_neg (by simp)], h⟩

end Sampled

/-- In the guard's own code the thread stands in the newest guard, which found nothing pending;
at `SIG_UNBLOCK` that guard is one that unblocks. -/
def Control.Placed (c : Control) : Prop :=
  c.phase = .body ∨ ∃ g gs, c.guards = g :: gs ∧ g.sigpipePending = false ∧
    (c.phase = .dtorUnblock → g.sigpipeUnblock = true)

/-- The mask of a thread that started with the mask `b`. -/
structure Held (b : Bool) (x : Thread) : Prop where
  blocked : x.own.blocked = covered b x.control.built
  sampled : Sampled b x.control.built
  placed : x.control.Placed

section Step
variable {b : Bool} {s : SigState} {a : Action} {c c' : Control}

theorem Control.Placed.head {ph : Phase} {g : Guard} {gs : List Guard}
    (h : Placed ⟨ph, g :: gs⟩) (hph : ph ≠ .body) :
    g.sigpipePending = false ∧ (ph = .dtorUnblock → g.sigpipeUnblock = true) := by
  rcases h with hbody | ⟨g', gs', heq, hg⟩
  · exact absurd hbody hph
  · obtain ⟨rfl, rfl⟩ := List.cons.inj heq
    exact hg

/-- **One step of the guard's code**: the guards that are alive then have sampled what they
should, and the action leaves the mask as they make it. -/
theorem Control.Placed.next (hplaced : c.Placed) (hsampled : Sampled b c.built)
    (hb : s.blocked = covered b c.built) (hn : c.next s a = some c')
    (hmask : a ≠ .block ∧ a ≠ .unblock) :
    c'.Placed ∧ Sampled b c'.built ∧ a.mask.getD s.blocked = covered b c'.built := by
  cases Control.turn_of_next hn with
  | signal ha =>
    refine ⟨hplaced, hsampled, ?_⟩
    rcases ha with rfl | rfl <;> exact hb
  | own ha gs =>
    refine ⟨.inl rfl, hsampled, ?_⟩
    rcases ha with rfl | rfl | rfl | ⟨l, rfl⟩
    · exact hb
    · exact absurd rfl hmask.1
    · exact absurd rfl hmask.2
    · exact hb
  | ctorFound u gs hp =>
    -- what is reported pending is blocked
    have hblocked : s.blocked = true := by
      simp only [SigState.sigpending, Bool.and_eq_true] at hp
      exact hp.1
    exact ⟨.inl rfl, sampled_pending (hb.symm.trans hblocked) hsampled,
      hblocked.trans covered_cons.symm⟩
  | ctorClear u gs hp => exact ⟨.inr ⟨_, _, rfl, rfl, Phase.noConfusion⟩, hsampled, hb⟩
  | ctorBlock g gs =>
    have hg : g.sigpipePending = false := (hplaced.head (by simp)).1
    refine ⟨.inl rfl, ?_, covered_cons.symm⟩
    have hguard : { g with sigpipeUnblock := !s.blocked } = (⟨false, !covered b gs⟩ : Guard) := by
      rw [hb, ← hg]
      rfl
    show Sampled b ({ g with sigpipeUnblock := !s.blocked } :: gs)
    rw [hguard]
    exact sampled_clear hsampled
  | leaveFound g gs hg =>
    exact ⟨.inl rfl, Sampled.tail hsampled,
      (hb.trans covered_cons).trans (Sampled.of_pending hsampled hg).symm⟩
  | leave g gs hg => exact ⟨.inr ⟨g, gs, rfl, hg, Phase.noConfusion⟩, hsampled, hb⟩
  | found g gs hp =>
    exact ⟨.inr ⟨g, gs, rfl, (hplaced.head (by simp)).1, Phase.noConfusion⟩, hsampled, hb⟩
  | clear g gs hp hg =>
    exact ⟨.inr ⟨g, gs, rfl, (hplaced.head (by simp)).1, fun _ => hg⟩, hsampled, hb⟩
  | done g gs hp hg =>
    have hclear := Sampled.of_clear hsampled (hplaced.head (by simp)).1
    have hrest : covered b gs = true := by simpa [hg] using hclear
    exact ⟨.inl rfl, Sampled.tail hsampled, (hb.trans covered_cons).trans hrest.symm⟩
  | sigwait l gs =>
    rcases hplaced with hbody | ⟨g, gs', heq, hg, -⟩
    · cases hbody
    · exact ⟨.inr ⟨g, gs', heq, hg, Phase.noConfusion⟩, hsampled, hb⟩
  | unblock g gs =>
    obtain ⟨hg, hunblock⟩ := hplaced.head (by simp)
    have hclear := Sampled.of_clear hsampled hg
    have hrest : covered b gs = false := by simpa [hunblock rfl] using hclear
    exact ⟨.inl rfl, Sampled.tail hsampled, hrest.symm⟩

end Step

theorem held_act {b : Bool} {x y : Thread} {p q : Bool} {a : Action} (hx : Held b x)
    (h : x.act p a = some (y, q)) (hmask : a ≠ .block ∧ a ≠ .unblock) : Held b y := by
  obtain ⟨hc, hs, -⟩ := act_iff.mp h
  obtain ⟨hplaced, hsampled, hblocked⟩ := hx.placed.next hx.sampled hx.blocked hc hmask
  exact ⟨(blocked_call hs).trans hblocked, hsampled, hplaced⟩

/-! ## Among other threads -/

variable {T : Type*} [DecidableEq T]

/-- Thread `t` leaves its mask to its guards. -/
def LeavesMask (t : T) (_ : State T) (e : Event T) : Prop := e ≠ .act t .block ∧ e ≠ .act t .unblock

instance (t : T) (s : State T) (e : Event T) : Decidable (LeavesMask t s e) :=
  inferInstanceAs (Decidable (_ ∧ _))

theorem held_step {t : T} {b : Bool} {s s' : State T} {e : Event T} (hs : Held b (s.thread t))
    (h : Guarded (Fires step) (LeavesMask t) s e s') : Held b (s'.thread t) := by
  obtain ⟨hstep, hblock, hunblock⟩ := h
  rcases step_thread hstep t with hsame | ⟨a, rfl, hact⟩
  · rw [hsame]
    exact hs
  · exact held_act hs hact ⟨fun ha => hblock (by rw [ha]), fun ha => hunblock (by rw [ha])⟩

omit [DecidableEq T] in
theorem held_initial {s₀ : State T} (h₀ : Initial s₀) (t : T) :
    Held (s₀.thread t).own.blocked (s₀.thread t) := by
  have hc := (h₀ t).1
  refine ⟨?_, ?_, .inl (by rw [hc])⟩
  · simp [hc, Control.built, covered]
  · rw [hc]
    trivial

theorem held_of_run {t : T} {s₀ s : State T} {es : List (Event T)} (h₀ : Initial s₀)
    (hrun : Run (Guarded (Fires step) (LeavesMask t)) s₀ es s) :
    Held (s₀.thread t).own.blocked (s.thread t) :=
  hrun.invariant (I := fun s => Held (s₀.thread t).own.blocked (s.thread t))
    (fun _ _ _ => held_step) (held_initial h₀ t)

/-- **The mask is what the guards make it.**  Thread `t` has SIGPIPE blocked if and only if it
started so or one of its guards is alive; so without a guard it has the mask it started with.
A destructor is at `SIG_UNBLOCK` only where its guard is the last one alive and the thread has
started unblocked. -/
theorem blocked_iff_guards {t : T} {s₀ s : State T} {es : List (Event T)} (h₀ : Initial s₀)
    (hrun : Run (Guarded (Fires step) (LeavesMask t)) s₀ es s) :
    ((s.thread t).own.blocked = true ↔
      (s₀.thread t).own.blocked = true ∨ (s.thread t).control.built ≠ []) ∧
    ((s.thread t).control.phase = .dtorUnblock →
      (s₀.thread t).own.blocked = false ∧ ∃ g, (s.thread t).control.guards = [g]) := by
  have hheld := held_of_run h₀ hrun
  refine ⟨?_, fun hphase => ?_⟩
  · rw [hheld.blocked, covered]
    cases (s.thread t).control.built <;> simp
  · rcases hheld.placed with hbody | ⟨g, gs, hguards, hg, hunblock⟩
    · rw [hbody] at hphase
      cases hphase
    · have hbuilt : (s.thread t).control.built = g :: gs := by
        rw [Control.built, hphase, if_neg (by simp), hguards]
      have hsampled := hheld.sampled
      rw [hbuilt] at hsampled
      have hrest : covered (s₀.thread t).own.blocked gs = false := by
        simpa [hunblock hphase] using hsampled.of_clear hg
      obtain ⟨hstart, hempty⟩ : (s₀.thread t).own.blocked = false ∧ gs = [] := by
        simpa [covered] using hrest
      exact ⟨hstart, g, by rw [hguards, hempty]⟩

/-- Thread `false` is in the destructor of an inner guard, with a SIGPIPE of its own accepted,
while thread `true` is in a constructor. -/
theorem blocked_iff_guards_nested :
    let es : List (Event Bool) :=
      [.act false (.ctorPending true), .act true (.ctorPending false), .act false .ctorBlock,
        .act false (.ctorPending false), .act false .ctorBlock, .act false .generate, .arrive,
        .act false .leave, .act false .dtorPending, .act false (.dtorSigwait .thread)]
    let s : State Bool := (replay (restrict step (LeavesMask false)) start es).getD start
    (s.thread false).control.phase = .dtorPending ∧ (s.thread false).own.blocked = true := by
  intro es s
  have hrun : Run (Guarded (Fires step) (LeavesMask false)) start es s :=
    run_guarded_of_replay rfl
  exact ⟨rfl, (blocked_iff_guards initial_start hrun).1.mpr (.inr (List.cons_ne_nil _ _))⟩

end SimpleTests.Sigpipe
