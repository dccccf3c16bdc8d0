import SimpleTests.SelectServerInvariant
import SimpleTests.UseSelectErrno

/-! # Descriptors as indices

`FD_SET`, `FD_CLR`, `FD_ISSET` and `select()` take descriptors as indices into a bitmap of
`FD_SETSIZE` bits, and neither program checks them.  A process may have more descriptors
than that.

Once a descriptor is in `master_set` the rest follows from the invariant: the scan and the
sweep end at `max_sd`, which is a member, and the search for the new maximum stops at the
listening socket.  So everything depends on the two places where a new descriptor is put
into a set (`indexSafe_iff`).
-/
namespace SimpleTests.Sockets
open Transition FdSet

variable {s s' s₀ : Server} {e : Event}

/-- No access outside of an `fd_set` has been made. -/
def Server.InBounds (s : Server) : Prop := s.pc ≠ .undefined

/-- The descriptor that a step puts into a set fits into it. -/
def FitsFdSet (s : Server) : Event → Prop
  | .listen (.ok _) => s.listenSd < fdSetSize
  | .acceptIoctl (.ok _) => s.newSd < fdSetSize
  | _ => True

instance FitsFdSet.decidable (s : Server) : ∀ e, Decidable (FitsFdSet s e)
  | .listen (.ok _) => inferInstanceAs (Decidable (s.listenSd < fdSetSize))
  | .acceptIoctl (.ok _) => inferInstanceAs (Decidable (s.newSd < fdSetSize))
  | .socket _ | .ioctl _ | .bind _ | .listen (.error _) | .select .. | .scan | .accept _
  | .acceptIoctl (.error _) | .recv _ | .send _ | .sigpipe | .closeConn | .sweep => .isTrue trivial

theorem lt_of_fdSet {sd : ℕ} {set set' : FdSet} (h : fdSet sd set = some set') :
    sd < fdSetSize := by
  by_contra hge
  rw [fdSet, dif_neg hge] at h
  cases h

/-- **One step**: indices are out of bounds only where a new descriptor does not fit. -/
theorem inBounds_turn_iff (ht : Turn s e s') (h : InvAt s e.pc) :
    s'.InBounds ↔ FitsFdSet s e := by
  constructor
  · intro hin
    cases ht with
    | listenUndefined | acceptUndefined => exact absurd rfl hin
    | listen u master hm | acceptAdd u master hm => exact lt_of_fdSet hm
    | _ => trivial
  · intro hfits hpc
    rcases undefined_of_turn ht h hpc with ⟨u, rfl, hge⟩ | ⟨u, rfl, hge⟩
    · have hlt : s.listenSd < fdSetSize := hfits
      omega
    · have hlt : s.newSd < fdSetSize := hfits
      omega

/-- The indices of a whole run of the server. -/
theorem inBounds_run_iff {es : List Event} (h0 : Initial s₀) (hrun : Run Steps s₀ es s) :
    Always (restrict Server.step Kernel) Server.InBounds s₀ es ↔
      Along (restrict Server.step Kernel) FitsFdSet s₀ es := by
  have steps : ∀ {s e s'}, restrict Server.step Kernel s e = some s' → Steps s e s' :=
    fun h => fires_restrict_iff.mp h
  refine always_iff_along_of_invariant (I := Inv) (fun s e s' hs hstep => ?_)
    (fun s e s' hs _ hstep => ?_) (hrun.mono fun s e s' => fires_restrict_iff.mpr)
    (inv_initial h0) ?_
  · exact inv_steps hs (steps hstep)
  · obtain ⟨hpc, ht, -⟩ := turn_of_steps (steps hstep)
    apply inBounds_turn_iff ht
    rw [← hpc]
    exact hs
  · show s₀.pc ≠ .undefined
    rw [h0.pc]
    exact Pc.noConfusion

/-- **`mysocket()` goes out of bounds only with the connection it accepts.** -/
theorem mysocket_eq_undefined_iff (a : Answers) (port : ℤ) (e : Errno) :
    (mysocket a port ⟨e, []⟩).1 = .undefined ↔
      ∃ addr sock connFd, a.Accepts addr sock connFd ∧ fdSetSize ≤ connFd := by
  constructor
  · have hexit := exit_mysocket a port
    generalize mysocket a port = run at hexit
    intro hrun
    cases hexit with
    | undefined addr sock connFd ha h => exact ⟨addr, sock, connFd, ha, h⟩
    | loop addr sock connFd n hc =>
      rw [outcome_receive] at hrun
      generalize errnoAtEnd a.receptions _ = last at hrun
      rcases last with - | e'
      · cases hrun
      · cases hrun
    | _ => cases hrun
  · rintro ⟨addr, sock, connFd, ha, hge⟩
    have hset : fdSet connFd fdZero = none := dif_neg (by omega)
    simp only [mysocket, ha.inetPton, ha.socket, ha.bind, ha.listen, ha.accept, hset]

/-- The index of `mysocket()`. -/
theorem mysocket_inBounds_iff (a : Answers) (port : ℤ) (e : Errno) :
    (mysocket a port ⟨e, []⟩).1 ≠ .undefined ↔
      ∀ addr sock connFd, a.Accepts addr sock connFd → connFd < fdSetSize := by
  rw [Ne, mysocket_eq_undefined_iff]
  constructor
  · intro h addr sock connFd ha
    by_contra hge
    exact h ⟨addr, sock, connFd, ha, Nat.le_of_not_lt hge⟩
  · rintro h ⟨addr, sock, connFd, ha, hge⟩
    have hlt := h addr sock connFd ha
    omega

/-- **When all indices are in bounds**: in every run of the server, in each of its states,
exactly if the listening socket and every connection that is added to `master_set` are
below `FD_SETSIZE`; and in every run of `mysocket()` exactly if the connection that it
accepts is. -/
theorem indexSafe_iff {es : List Event} (h0 : Initial s₀) (hrun : Run Steps s₀ es s) :
    (Always (restrict Server.step Kernel) Server.InBounds s₀ es ↔
      Along (restrict Server.step Kernel) FitsFdSet s₀ es) ∧
    ∀ (a : Answers) (port : ℤ) (e : Errno), (mysocket a port ⟨e, []⟩).1 ≠ .undefined ↔
      ∀ addr sock connFd, a.Accepts addr sock connFd → connFd < fdSetSize :=
  ⟨inBounds_run_iff h0 hrun, mysocket_inBounds_iff⟩

theorem inBounds_oneVisit :
    Always (restrict Server.step Kernel) Server.InBounds start oneVisit := by
  have hrun : Run Steps (serve []) oneVisit (serve ([] ++ oneVisit)) := run_serve (by decide)
  exact (indexSafe_iff initial_start hrun).1.mpr (by decide)

/-- `accept()` returns 1024. -/
def acceptHigh : List Event :=
  [.socket (.ok 3), .ioctl (.ok ()), .bind (.ok ()), .listen (.ok ()),
    .select 0 0 (.ok ⟨{3}, three_inRange⟩), .scan, .scan, .scan, .scan, .accept (.ok 1024),
    .acceptIoctl (.ok ())]

/-- Both programs put the descriptor 1024 into a set. -/
theorem not_inBounds_acceptHigh :
    (Reachable Steps Initial (serve acceptHigh) ∧ ¬ (serve acceptHigh).InBounds) ∧
    (mysocket { connection [] with accept := .ok 1024 } 22649 ⟨.other 0, []⟩).1 = .undefined :=
  ⟨⟨reachable_serve (by decide), fun h => h (by decide)⟩, by decide⟩

end SimpleTests.Sockets
