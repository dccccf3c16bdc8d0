import SimpleTests.SelectServerEcho
import SimpleTests.EchoSession

/-! # The `select()` server as an echo service

`main()` is one loop over all its clients.  What it is for is a service to each of them, and
this module says that it is no more than that: its runs are runs of one `Session` for each
descriptor it obtains, the listening socket among them, which never echoes anything.

`sessionActs` reads off a step what it is for the sessions.  Between a `recv()` and its
`send()` the chunk belongs to no session yet (`settled`).  `service_run` is the refinement,
and since the sessions share nothing, each client is served as if it was alone
(`echo_service`).
-/
namespace SimpleTests.Sockets
open Transition FdSet ResourceLedger EchoSession

/-- The record without a chunk that waits for its `send()`. -/
def Server.settled (s : Server) : List Call := if s.pc = .send then s.calls.tail else s.calls

open Classical in
/-- How far the session of the `c`-th descriptor is, by the book. -/
noncomputable def phaseIn (b : Book ℕ) (c : ℕ) : Phase :=
  if b.issued ≤ c then .fresh else if ∃ sd, b.held sd = some c then .connected else .closed

/-- The sessions under a book of descriptors and a record of calls. -/
noncomputable def sessionsOf (b : Book ℕ) (calls : List Call) (c : ℕ) : Session UInt8 where
  phase := phaseIn b c
  inbox := received c calls
  outbox := sent c calls

/-- The session of each descriptor that the server has obtained. -/
noncomputable def Server.sessions (s : Server) : ℕ → Session UInt8 := sessionsOf s.book s.settled

/-- `close(sd)`, for the sessions. -/
def Server.hangup (s : Server) (sd : ℕ) : List (ℕ × Act UInt8) :=
  (s.acqOf sd).toList.map fun c => (c, .hangup)

/-- What a step is for the sessions. -/
def sessionActs (s : Server) : Event → List (ℕ × Act UInt8)
  | .socket (.ok _) | .accept (.ok _) => [(s.acquired, .connect)]
  | .ioctl (.error _) | .bind (.error _) | .listen (.error _) | .acceptIoctl (.error _) =>
    s.hangup s.listenSd
  | .send r => (s.acqOf s.i).toList.map fun c => (c, .echo (s.buffer.take s.len) (taken r))
  | .sigpipe => (s.acqOf s.i).toList.map fun c => (c, .echo (s.buffer.take s.len) 0)
  | .closeConn => if s.closeConn then s.hangup s.i else []
  | .sweep => if s.i ≤ s.maxSd ∧ s.i ∈ s.masterSet then s.hangup s.i else []
  | _ => []

/-! ## What the sessions see -/

variable {s s' : Server} {e : Event} {b : Book ℕ} {calls : List Call} {sd c : ℕ}

theorem phaseIn_held (hb : Balanced b) (hsd : b.held sd = some c) : phaseIn b c = .connected := by
  have hlt := hb.held_lt sd c hsd
  rw [phaseIn, if_neg (by omega), if_pos ⟨sd, hsd⟩]

open Classical in
theorem phaseIn_congr {b' : Book ℕ} (hissued : b'.issued ≤ c ↔ b.issued ≤ c)
    (hheld : (∃ sd, b'.held sd = some c) ↔ ∃ sd, b.held sd = some c) :
    phaseIn b' c = phaseIn b c :=
  if_congr hissued rfl (if_congr hheld rfl rfl)

theorem phaseIn_issue (hfree : b.held sd = none) :
    phaseIn (b.issue sd) = Function.update (phaseIn b) b.issued .connected := by
  funext c
  by_cases hc : c = b.issued
  · subst hc
    have hheld : (b.issue sd).held sd = some b.issued := by simp [Book.issue]
    have hlt : ¬ (b.issue sd).issued ≤ b.issued := Nat.not_succ_le_self _
    rw [Function.update_self, phaseIn, if_neg hlt, if_pos ⟨sd, hheld⟩]
  · have hissued : (b.issue sd).issued ≤ c ↔ b.issued ≤ c := by
      show b.issued + 1 ≤ c ↔ b.issued ≤ c
      omega
    have hheld : (∃ x, (b.issue sd).held x = some c) ↔ ∃ x, b.held x = some c := by
      constructor
      · rintro ⟨x, hx⟩
        rcases held_issue hx with ⟨-, hcx⟩ | ⟨-, hx⟩
        · exact absurd hcx hc
        · exact ⟨x, hx⟩
      · rintro ⟨x, hx⟩
        have hne : x ≠ sd := by
          rintro rfl
          rw [hfree] at hx
          cases hx
        exact ⟨x, by simpa [Book.issue, hne] using hx⟩
    rw [Function.update_of_ne hc]
    exact phaseIn_congr hissued hheld

theorem phaseIn_release (hb : Balanced b) (hsd : b.held sd = some c) :
    phaseIn (b.release sd) = Function.update (phaseIn b) c .closed := by
  funext c'
  by_cases hc : c' = c
  · subst hc
    have hlt := hb.held_lt sd c' hsd
    have hno : ¬ ∃ x, (b.release sd).held x = some c' := by
      rintro ⟨x, hx⟩
      obtain ⟨hne, hx⟩ := held_release.mp hx
      exact hne (hb.unique x sd c' hx hsd)
    have hissued : ¬ (b.release sd).issued ≤ c' := Nat.not_le_of_lt hlt
    rw [Function.update_self, phaseIn, if_neg hissued, if_neg hno]
  · have hheld : (∃ x, (b.release sd).held x = some c') ↔ ∃ x, b.held x = some c' := by
      constructor
      · rintro ⟨x, hx⟩
        exact ⟨x, (held_release.mp hx).2⟩
      · rintro ⟨x, hx⟩
        refine ⟨x, held_release.mpr ⟨?_, hx⟩⟩
        rintro rfl
        exact hc (Option.some.inj (hx.symm.trans hsd))
    rw [Function.update_of_ne hc]
    exact phaseIn_congr Iff.rfl hheld

/-- The steps of a service to many clients. -/
abbrev ServiceSteps : (ℕ → Session UInt8) → ℕ × Act UInt8 → (ℕ → Session UInt8) → Prop :=
  Fires (interleave Session.step)

/-- A step of the service that changes phases only. -/
theorem service_phase {b' : Book ℕ} {a : Act UInt8} {phase : Phase}
    (hstep : (sessionsOf b calls c).step a = some { sessionsOf b calls c with phase := phase })
    (hb' : phaseIn b' = Function.update (phaseIn b) c phase) :
    ServiceSteps (sessionsOf b calls) (c, a) (sessionsOf b' calls) := by
  refine fires_interleave_iff.mpr ⟨_, hstep, funext fun x => ?_⟩
  by_cases hx : x = c
  · subst hx
    rw [Function.update_self]
    have hphase : phaseIn b' x = phase := by rw [hb', Function.update_self]
    exact Session.ext hphase rfl rfl
  · rw [Function.update_of_ne hx]
    have hphase : phaseIn b' x = phaseIn b x := by rw [hb', Function.update_of_ne hx]
    exact Session.ext hphase rfl rfl

/-- A new descriptor begins a session. -/
theorem service_issue (hfree : b.held sd = none) (calls : List Call) :
    ServiceSteps (sessionsOf b calls) (b.issued, .connect) (sessionsOf (b.issue sd) calls) :=
  service_phase (if_pos (if_pos (Nat.le_refl _))) (phaseIn_issue hfree)

/-- A descriptor that is closed ends one. -/
theorem service_release (hb : Balanced b) (hsd : b.held sd = some c) (calls : List Call) :
    ServiceSteps (sessionsOf b calls) (c, .hangup) (sessionsOf (b.release sd) calls) :=
  service_phase (if_pos (phaseIn_held hb hsd)) (phaseIn_release hb hsd)

/-- A chunk that is received and sent belongs to the session of its descriptor. -/
theorem service_echo {d : Option Descr} {chunk : Chunk} {r : Except Errno ℕ}
    (hphase : phaseIn b c = .connected) (hd : d.map Descr.acq = some c)
    (hr : taken r ≤ chunk.bytes.length) :
    ServiceSteps (sessionsOf b calls) (c, .echo chunk.bytes (taken r))
      (sessionsOf b (.send d chunk.bytes r :: .recv d (.ok chunk) :: calls)) := by
  refine fires_interleave_iff.mpr ⟨_, if_pos ⟨hphase, hr⟩, funext fun x => ?_⟩
  by_cases hx : x = c
  · subst hx
    rw [Function.update_self]
    obtain ⟨hrec, hsent⟩ := streams_echo hd chunk r calls
    exact Session.ext rfl hrec hsent
  · rw [Function.update_of_ne hx]
    have hne : d.map Descr.acq ≠ some x := by
      rw [hd]
      exact fun h => hx (Option.some.inj h).symm
    obtain ⟨hrec, hsent⟩ := streams_echo_of_ne hne chunk r calls
    exact Session.ext rfl hrec hsent

/-- No session sees a call that moves no data. -/
theorem sessionsOf_other {x : Call} (hx : ¬ x.MovesData) :
    sessionsOf b (x :: calls) = sessionsOf b calls := by
  funext c
  simp only [sessionsOf, received_other hx, sent_other hx]

/-! ## The steps of the server -/

theorem settled_of_ne (h : s.pc ≠ .send) : s.settled = s.calls := if_neg h

/-- The server before a `send()`: the chunk it has received waits in the buffer. -/
theorem settled_of_send (h : s.pc = .send) : s.settled = s.calls.tail := if_pos h

/-- A step that obtains and closes nothing, and moves no data, is none of the service. -/
theorem sessions_stay (hbook : s'.book = s.book)
    (hcalls : sessionsOf s.book s'.settled = sessionsOf s.book s.settled) :
    Run ServiceSteps s.sessions [] s'.sessions := by
  have heq : s'.sessions = s.sessions := by
    rw [Server.sessions, hbook]
    exact hcalls
  rw [heq]
  exact .nil _

/-- `close()` on an open descriptor ends its session. -/
theorem sessions_hangup (hb : Balanced s.book) (hopen : s.fds sd ≠ none)
    (hbook : s'.book = s.book.release sd)
    (hcalls : s'.settled = .close (s.fds sd) :: s.settled) :
    Run ServiceSteps s.sessions (s.hangup sd) s'.sessions := by
  obtain ⟨c, hc⟩ := Option.ne_none_iff_exists'.mp (mt acqOf_eq_none.mp hopen)
  have hacts : s.hangup sd = [(c, .hangup)] := by
    rw [Server.hangup, hc]
    rfl
  rw [hacts, Server.sessions, Server.sessions, hbook, hcalls, sessionsOf_other id]
  exact .single (service_release hb hc _)

/-- A new descriptor begins a session. -/
theorem sessions_acquire (hfree : s.fds sd = none) (hbook : s'.book = s.book.issue sd)
    (hcalls : sessionsOf s'.book s'.settled = sessionsOf s'.book s.settled) :
    Run ServiceSteps s.sessions [(s.acquired, .connect)] s'.sessions := by
  rw [Server.sessions, Server.sessions, hcalls, hbook]
  exact .single (service_issue (acqOf_eq_none.mpr hfree) _)

/-- `send()` hands the chunk, and what the kernel takes of it, to the session. -/
theorem sessions_send {r : Except Errno ℕ} (hb : Balanced s.book) (hh : Handling s)
    (hpaired : PairedAt s .send) (hpc : s.pc = .send) (hr : taken r ≤ s.len)
    (hbook : s'.book = s.book)
    (hcalls : s'.settled = .send (s.fds s.i) (s.buffer.take s.len) r :: s.calls) :
    Run ServiceSteps s.sessions (sessionActs s (.send r)) s'.sessions := by
  obtain ⟨chunk, calls, hrecv, -, hbuffer, hlen, -⟩ := hpaired
  obtain ⟨c, hc⟩ := Option.ne_none_iff_exists'.mp (mt acqOf_eq_none.mp (hh.rep.isOpen hh.mem))
  have hacts : sessionActs s (.send r) = [(c, .echo chunk.bytes (taken r))] := by
    rw [sessionActs, hc, hbuffer]
    rfl
  have hsettled : s.settled = calls := by
    rw [settled_of_send hpc, hrecv]
    rfl
  rw [hacts, Server.sessions, Server.sessions, hbook, hcalls, hsettled, hrecv, hbuffer]
  exact .single (service_echo (phaseIn_held hb hc) hc (hlen ▸ hr))

/-- **Every step of the server is what `sessionActs` says**, for all the sessions. -/
theorem sessions_turn (ht : Turn s e s') (hpc : s.pc = e.pc) (hk : Kernel s e)
    (hinv : InvAt s e.pc) (hpaired : PairedAt s e.pc) (hb : Balanced s.book) :
    Run ServiceSteps s.sessions (sessionActs s e) s'.sessions := by
  have hset : e.pc ≠ .send → s.settled = s.calls := fun h => settled_of_ne (hpc ▸ h)
  cases ht with
  | socketError | bind | listen | listenUndefined | selectUndefined | scanUndefined | scanSkip
  | scanEnd | scanAgain | recvData =>
    refine sessions_stay rfl ?_
    rw [hset Pc.noConfusion]
    rfl
  | closeNot hc =>
    rw [sessionActs, if_neg (by simp [hc])]
    refine sessions_stay rfl ?_
    rw [hset Pc.noConfusion]
    rfl
  | sweepUndefined _ hi =>
    have hno : s.i ∉ s.masterSet := fun hmem => Nat.not_lt_of_le (fdIsset_eq_none hi) (lt_of_mem hmem)
    rw [sessionActs, if_neg fun h => hno h.2]
    refine sessions_stay rfl ?_
    rw [hset Pc.noConfusion]
    rfl
  | sweepSkip _ hi =>
    rw [sessionActs, if_neg fun h => hi h.2]
    refine sessions_stay rfl ?_
    rw [hset Pc.noConfusion]
    rfl
  | sweepEnd hdone =>
    rw [sessionActs, if_neg fun h => hdone h.1]
    refine sessions_stay rfl ?_
    rw [hset Pc.noConfusion]
    rfl
  | ioctl =>
    refine sessions_stay (book_setNonblocking s.listenSd) ?_
    rw [hset Pc.noConfusion]
    rfl
  | acceptUndefined | acceptAdd =>
    refine sessions_stay (book_setNonblocking s.newSd) ?_
    rw [hset Pc.noConfusion]
    rfl
  | selectError | selectTimeout | selectReady | scanListen | scanConn | acceptError | recvError =>
    refine sessions_stay rfl ?_
    rw [hset Pc.noConfusion]
    exact sessionsOf_other id
  | recvClosed data hd =>
    refine sessions_stay rfl ?_
    rw [hset Pc.noConfusion]
    exact sessionsOf_other fun hne => hne (List.length_eq_zero_iff.mp hd)
  | socket sd =>
    refine sessions_acquire hk (book_acquire sd) ?_
    rw [hset Pc.noConfusion]
    rfl
  | accept sd =>
    refine sessions_acquire hk (book_acquire sd) ?_
    rw [hset Pc.noConfusion]
    exact sessionsOf_other id
  | sendError =>
    exact sessions_send hb hinv hpaired hpc (Nat.zero_le _) rfl (settled_of_ne Pc.noConfusion)
  | send n => exact sessions_send hb hinv hpaired hpc hk rfl (settled_of_ne Pc.noConfusion)
  | sendKilled =>
    -- for the sessions it is a `send()` that fails
    show Run ServiceSteps s.sessions (sessionActs s (.send (.error epipe))) s.onSigpipe.sessions
    exact sessions_send hb hinv hpaired hpc (Nat.zero_le _) rfl (settled_of_ne Pc.noConfusion)
  | ioctlError | bindError | listenError | acceptIoctlError =>
    have hopen : s.fds s.listenSd ≠ none := hinv.listen_open (by simp [Event.pc])
    refine sessions_hangup hb hopen (book_close _) ?_
    rw [hset Pc.noConfusion]
    rfl
  | closeUndefined hc | closeMax hc | close hc =>
    have hh : Handling s := hinv
    rw [sessionActs, if_pos hc]
    refine sessions_hangup hb (hh.rep.isOpen hh.mem) (book_close _) ?_
    rw [hset Pc.noConfusion]
    rfl
  | sweepClose hcond hi =>
    have hsweep : Sweeping s := hinv
    have hopen : s.fds s.i ≠ none := (hsweep.open_iff s.i).mpr ⟨hi, Nat.le_refl _⟩
    rw [sessionActs, if_pos ⟨hcond, hi⟩]
    refine sessions_hangup hb hopen (book_close _) ?_
    rw [hset Pc.noConfusion]
    rfl

/-! ## The runs of the server -/

theorem sessions_initial (h : Initial s) : s.sessions = fun _ => Session.fresh := by
  funext c
  have hissued : s.book.issued ≤ c := by
    show s.acquired ≤ c
    rw [h.acquired]
    exact Nat.zero_le c
  have hphase : phaseIn s.book c = .fresh := if_pos hissued
  have hsettled : s.settled = [] := by
    rw [settled_of_ne (by rw [h.pc]; exact Pc.noConfusion), h.calls]
  refine Session.ext hphase ?_ ?_
  · show received c s.settled = []
    rw [hsettled]
    rfl
  · show sent c s.settled = []
    rw [hsettled]
    rfl

/-- What the server does, for the sessions, in a run from `s`. -/
def serviceActs (s : Server) (es : List Event) : List (ℕ × Act UInt8) :=
  translate Server.step sessionActs s es

theorem service_step (h : Reachable Steps Initial s) (hs : Steps s e s') :
    Run ServiceSteps s.sessions (sessionActs s e) s'.sessions := by
  obtain ⟨hpc, ht, hk⟩ := turn_of_steps hs
  apply sessions_turn ht hpc hk _ _ (balanced_book h)
  · rw [← hpc]
    exact inv_of_reachable h
  · rw [← hpc]
    exact paired_of_reachable h

theorem service_run {es : List Event} {s₀ : Server} (h0 : Initial s₀) (hr : Run Steps s₀ es s) :
    Run ServiceSteps (fun _ => Session.fresh) (serviceActs s₀ es) s.sessions := by
  rw [← sessions_initial h0]
  exact hr.translate (I := Reachable Steps Initial) (fun s e s' h hs => h.step hs)
    (fun s e s' => service_step) (.initial h0)

/-- **The server is an echo service**: what it does in a run is a run of one session for
each descriptor, and the sessions end as the record of its calls has it.  So each client is
served as if it was alone: whatever the others do, what happens on one descriptor is the
story of one session. -/
theorem echo_service {es : List Event} {s₀ : Server} (h0 : Initial s₀) (hr : Run Steps s₀ es s) :
    Run ServiceSteps (fun _ => Session.fresh) (serviceActs s₀ es) s.sessions ∧
      ∀ c, Story (project c (serviceActs s₀ es)) (s.sessions c) := by
  have hrun := service_run h0 hr
  exact ⟨hrun, fun c => story_of_run (run_interleave_iff.mp hrun c) .fresh⟩

theorem echo_service_oneVisit :
    Run ServiceSteps (fun _ => Session.fresh) (serviceActs start oneVisit)
        (serve oneVisit).sessions ∧
      ∀ c, Story (project c (serviceActs start oneVisit)) ((serve oneVisit).sessions c) :=
  echo_service initial_start (run_start (by decide))

example : serviceActs start oneVisit =
    [(0, .connect), (1, .connect), (1, .echo [7] 1), (1, .hangup), (0, .hangup)] := rfl

end SimpleTests.Sockets
