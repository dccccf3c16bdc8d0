import SimpleTests.SigpipeThreads

/-! # The guard run by one thread is a run of the process

`SigpipeGuard` gives the guard as functions on the signal state, `SigpipeThreads` as
single calls between which other threads move.  They are the same code: whatever
`exec` computes for a body, thread `t` reaches in the process by steps of its own,
all of them guard code or generated SIGPIPEs (`exec_reaches`).
-/
namespace SimpleTests.Sigpipe
open Transition

variable {T : Type*} [DecidableEq T]

/-- What a body consists of: generated SIGPIPEs and the calls of guards. -/
def Action.ofBody : Action → Bool
  | .kill | .deliver | .block | .unblock | .sigwait _ => false
  | _ => true

/-- By steps of its own body, and while no other thread changes, thread `t` gets from
`s` to the control `c` with the signal state `σ`. -/
def Reaches (t : T) (s : State T) (c : Control) (σ : SigState) : Prop :=
  ∃ es s', Run (Fires step) s es s' ∧ (∀ e ∈ es, ∃ a, e = .act t a ∧ a.ofBody = true) ∧
    (s'.thread t).control = c ∧ (s'.thread t).sig s'.process = σ ∧
    ∀ u, u ≠ t → s'.thread u = s.thread u

section Reaches
variable {t : T} {s : State T} {c c' : Control} {σ σ' : SigState} {a : Action}

theorem Reaches.refl (t : T) (s : State T) :
    Reaches t s (s.thread t).control ((s.thread t).sig s.process) :=
  ⟨[], s, .nil s, by simp, rfl, rfl, fun _ _ => rfl⟩

theorem Reaches.trans (h : Reaches t s c σ)
    (h' : ∀ s', (s'.thread t).control = c → (s'.thread t).sig s'.process = σ →
      Reaches t s' c' σ') : Reaches t s c' σ' := by
  obtain ⟨es, m, hrun, hes, hc, hσ, hother⟩ := h
  obtain ⟨es', s', hrun', hes', hc', hσ', hother'⟩ := h' m hc hσ
  refine ⟨es ++ es', s', hrun.append hrun', fun e he => ?_, hc', hσ', fun u hu => ?_⟩
  · exact (List.mem_append.mp he).elim (hes e) (hes' e)
  · rw [hother' u hu, hother u hu]

/-- One call of the guard's code. -/
theorem Reaches.call (ha : a.ofBody = true)
    (hc : (s.thread t).control.next ((s.thread t).sig s.process) a = some c)
    (hσ : ((s.thread t).sig s.process).call a = some σ) : Reaches t s c σ := by
  have hact : (s.thread t).act s.process a = some (⟨σ.toThreadSig, c,
      (s.thread t).log.note ((s.thread t).sig s.process) a⟩, σ.processPending) :=
    act_iff.mpr ⟨hc, hσ, rfl⟩
  refine ⟨[.act t a], _, .single (Option.map_eq_some_iff.mpr ⟨_, hact, rfl⟩), ?_, ?_, ?_, ?_⟩
  · simpa using ha
  · simp
  · simp [Thread.sig]
  · intro u hu; simp [hu]

theorem ctor_reaches {gs : List Guard} (u : Bool) (hc : (s.thread t).control = ⟨.body, gs⟩)
    (hσ : (s.thread t).sig s.process = σ) :
    Reaches t s ⟨.body, (ctor u σ).1 :: gs⟩ (ctor u σ).2 := by
  cases hp : σ.sigpending with
  | true =>
    rw [ctor_of_sigpending hp]
    exact .call (a := .ctorPending u) rfl (by simp [hc, hσ, Control.next, hp]) (by simp [hσ, SigState.call])
  | false =>
    rw [ctor_of_not_sigpending hp]
    refine Reaches.trans (c := ⟨.ctorBlock, ⟨false, u⟩ :: gs⟩) (σ := σ)
      (.call (a := .ctorPending u) rfl (by simp [hc, hσ, Control.next, hp])
        (by simp [hσ, SigState.call])) fun m hc hσ => ?_
    exact .call (a := .ctorBlock) rfl (by simp [hc, hσ, Control.next]) (by simp [hσ, SigState.call])

/-- The place behind the destructor's loop. -/
def afterDrain (g : Guard) (gs : List Guard) : Control :=
  if g.sigpipeUnblock then ⟨.dtorUnblock, g :: gs⟩ else ⟨.body, gs⟩

theorem drain_reaches {fuel : ℕ} {g : Guard} {gs : List Guard} (h : drain fuel σ = some σ')
    (hc : (s.thread t).control = ⟨.dtorPending, g :: gs⟩)
    (hσ : (s.thread t).sig s.process = σ) : Reaches t s (afterDrain g gs) σ' := by
  induction fuel generalizing s σ with
  | zero => cases h
  | succ fuel ih =>
    unfold drain at h
    cases hp : σ.sigpending with
    | false =>
      simp only [hp, Bool.false_eq_true, if_false, Option.some.injEq] at h
      subst h
      refine .call (a := .dtorPending) rfl ?_ (by simp [hσ, SigState.call])
      rw [hc, hσ, Control.next, hp, afterDrain]
      cases g.sigpipeUnblock <;> rfl
    | true =>
      simp only [hp, if_true] at h
      obtain ⟨m, hm, h⟩ := Option.bind_eq_some_iff.mp h
      refine Reaches.trans (c := ⟨.dtorSigwait, g :: gs⟩) (σ := σ)
        (.call (a := .dtorPending) rfl (by simp [hc, hσ, Control.next, hp])
          (by simp [hσ, SigState.call])) fun s₁ hc hσ => ?_
      obtain ⟨l, hl⟩ : ∃ l, σ.take l = some m := by
        rcases Option.or_eq_some_iff.mp hm with ht | ⟨-, hq⟩
        · exact ⟨.thread, ht⟩
        · exact ⟨.process, hq⟩
      refine Reaches.trans (c := ⟨.dtorPending, g :: gs⟩) (σ := m)
        (.call (a := .dtorSigwait l) rfl (by simp [hc, Control.next])
          (by simp [hσ, SigState.call, hl])) fun s₂ hc hσ => ?_
      exact ih h hc hσ

theorem dtor_reaches {fuel : ℕ} {g : Guard} {gs : List Guard} (h : dtor fuel g σ = some σ')
    (hc : (s.thread t).control = ⟨.body, g :: gs⟩)
    (hσ : (s.thread t).sig s.process = σ) : Reaches t s ⟨.body, gs⟩ σ' := by
  unfold dtor at h
  cases hp : g.sigpipePending with
  | true =>
    simp only [hp, if_true, Option.some.injEq] at h
    subst h
    exact .call (a := .leave) rfl (by simp [hc, Control.next, hp]) (by simp [hσ, SigState.call])
  | false =>
    simp only [hp, Bool.false_eq_true, if_false] at h
    obtain ⟨m, hm, h⟩ := Option.map_eq_some_iff.mp h
    refine Reaches.trans (c := ⟨.dtorPending, g :: gs⟩) (σ := σ)
      (.call (a := .leave) rfl (by simp [hc, Control.next, hp]) (by simp [hσ, SigState.call]))
      fun s₁ hc hσ => (drain_reaches hm hc hσ).trans fun s₂ hc hσ => ?_
    unfold afterDrain at hc
    cases hu : g.sigpipeUnblock with
    | false =>
      simp only [hu, Bool.false_eq_true, if_false] at h hc
      rw [← h, ← hc, ← hσ]
      exact .refl t s₂
    | true =>
      simp only [hu, if_true] at h hc
      exact .call (a := .dtorUnblock) rfl (by simp [hc, Control.next])
        (by simp [hσ, SigState.call, h])

/-- **What `exec` computes, the thread does.** -/
theorem exec_reaches {fuel : ℕ} {b : Body} {gs : List Guard} (h : exec fuel b σ = some σ')
    (hc : (s.thread t).control = ⟨.body, gs⟩) (hσ : (s.thread t).sig s.process = σ) :
    Reaches t s ⟨.body, gs⟩ σ' := by
  induction b generalizing s σ σ' gs with
  | done =>
    cases h
    rw [← hc, ← hσ]
    exact .refl t s
  | generate rest ih =>
    exact Reaches.trans (.call (a := .generate) rfl (by rw [hc]; rfl) rfl)
      fun m hc hm => ih h hc (by rw [hm, hσ])
  | scope u inner rest ih₁ ih₂ =>
    simp only [exec] at h
    obtain ⟨m₁, h₁, h⟩ := Option.bind_eq_some_iff.mp h
    obtain ⟨m₂, h₂, h₃⟩ := Option.bind_eq_some_iff.mp h
    exact (ctor_reaches u hc hσ).trans fun s₁ hc hσ =>
      (ih₁ h₁ hc hσ).trans fun s₂ hc hσ =>
      (dtor_reaches h₂ hc hσ).trans fun s₃ hc hσ => ih₂ h₃ hc hσ

end Reaches

end SimpleTests.Sigpipe
