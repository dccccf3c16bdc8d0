import SimpleTests.SelectServerInvariant
import SimpleTests.ResourceLedger

/-! # The descriptors of the `select()` server

Three results on how `main()` keeps its descriptors, in every run.

`masterSet_exact`: `master_set` is the listening socket with the open accepted
connections, `max_sd` is its maximum, and the search for a new maximum ends.

`closed_once`: when `main()` reaches its end, every descriptor it obtained has been
closed once, and nothing else was closed.  The count is by acquisition, so a number
that is used again counts again.

`calls_nonblocking`: `accept()`, `recv()` and `send()` are called only on descriptors
that `ioctl(FIONBIO)` has succeeded on since they were obtained.

The accounts are those of `ResourceLedger`: `book_turn` shows that whatever branch a
step takes, it uses descriptors correctly.
-/
namespace SimpleTests.Sockets
open Transition FdSet ResourceLedger

namespace Server
variable (s : Server)

/-- The number of the acquisition an open descriptor comes from. -/
def acqOf (sd : ℕ) : Option ℕ := (s.fds sd).map Descr.acq

/-- The acquisitions passed to `close()`, most recent first, with `none` for a
descriptor that was not open. -/
def closed : List (Option ℕ) :=
  s.calls.filterMap fun
    | .close d => some (d.map Descr.acq)
    | _ => none

end Server

variable {s s' : Server} {e : Event}

theorem acqOf_eq_none {sd : ℕ} : s.acqOf sd = none ↔ s.fds sd = none := Option.map_eq_none_iff

theorem acqOf_acquire (sd : ℕ) :
    (s.acquire sd).acqOf = Function.update s.acqOf sd (some s.acquired) := by
  funext x
  by_cases hx : x = sd
  · simp [Server.acqOf, Server.acquire, hx]
  · simp [Server.acqOf, Server.acquire, hx]

theorem acqOf_setNonblocking (sd : ℕ) : (s.setNonblocking sd).acqOf = s.acqOf := by
  funext x
  by_cases hx : x = sd
  · cases hd : s.fds sd <;> simp [Server.acqOf, Server.setNonblocking, hx, hd]
  · simp [Server.acqOf, Server.setNonblocking, hx]

theorem acqOf_close (sd : ℕ) : (s.close sd).acqOf = Function.update s.acqOf sd none := by
  funext x
  by_cases hx : x = sd
  · simp [Server.acqOf, Server.close, hx]
  · simp [Server.acqOf, Server.close, hx]

/-! ## The book of the descriptors -/

/-- The descriptors as a book of resources issued under numbers. -/
def Server.book (s : Server) : Book ℕ := ⟨s.acqOf, s.acquired, s.closed⟩

theorem book_acquire (sd : ℕ) : (s.acquire sd).book = s.book.issue sd :=
  congrArg (Book.mk · (s.acquired + 1) s.closed) (acqOf_acquire sd)

theorem book_setNonblocking (sd : ℕ) : (s.setNonblocking sd).book = s.book :=
  congrArg (Book.mk · s.acquired s.closed) (acqOf_setNonblocking sd)

theorem book_close (sd : ℕ) : (s.close sd).book = s.book.release sd :=
  congrArg (Book.mk · s.acquired (s.acqOf sd :: s.closed)) (acqOf_close sd)

/-- The listening socket is open from `socket()` on. -/
theorem InvAt.listen_open {pc : Pc} (h : InvAt s pc)
    (hpc : pc = .ioctl ∨ pc = .bind ∨ pc = .listen ∨ pc = .accept ∨ pc = .acceptIoctl) :
    s.fds s.listenSd ≠ none := by
  rcases hpc with rfl | rfl | rfl | rfl | rfl
  · exact OnlyListen.listen h
  · exact h.1.listen
  · exact h.1.listen
  · exact h.1.isOpen h.1.listen
  · exact h.1.isOpen h.1.listen

/-- A new descriptor is one that was free. -/
theorem step_book_acquire {sd : ℕ} (hfresh : s.fds sd = none) :
    s.book.step (.issue sd) = some (s.acquire sd).book := by
  rw [book_acquire]
  exact Book.step_issue (acqOf_eq_none.mpr hfresh)

/-- A descriptor that is closed was open. -/
theorem step_book_close {sd : ℕ} (hopen : s.fds sd ≠ none) :
    s.book.step (.release sd) = some (s.close sd).book := by
  rw [book_close]
  exact Book.step_release fun hnone => hopen (acqOf_eq_none.mp hnone)

/-- **Every step uses descriptors correctly**: it leaves the book as it is, enters a
descriptor that was free, or strikes out one that was open. -/
theorem book_turn (ht : Turn s e s') (hk : Kernel s e) (h : InvAt s e.pc) :
    s'.book = s.book ∨ ∃ x, s.book.step x = some s'.book := by
  cases ht with
  | socketError | bind | listen | listenUndefined | selectUndefined | selectError
  | selectTimeout | selectReady | scanUndefined | scanSkip | scanListen | scanConn | scanEnd
  | scanAgain | acceptError | recvError | recvClosed | recvData | sendError | send
  | sendKilled | closeNot | sweepUndefined | sweepSkip | sweepEnd =>
    exact Or.inl rfl
  | ioctl => exact Or.inl (book_setNonblocking s.listenSd)
  | acceptUndefined | acceptAdd => exact Or.inl (book_setNonblocking s.newSd)
  | socket sd =>
    obtain ⟨hnone, -⟩ := h
    exact Or.inr ⟨.issue sd, step_book_acquire (hnone sd)⟩
  | accept sd =>
    have hfresh : s.fds sd = none := hk
    have hstep := step_book_acquire (s := s.note (.accept (s.fds s.listenSd))) hfresh
    exact Or.inr ⟨.issue sd, hstep⟩
  | ioctlError | bindError | listenError | acceptIoctlError =>
    exact Or.inr ⟨.release s.listenSd, step_book_close (h.listen_open (by simp [Event.pc]))⟩
  | closeUndefined | closeMax | close =>
    have hh : Handling s := h
    exact Or.inr ⟨.release s.i, step_book_close (hh.rep.isOpen hh.mem)⟩
  | sweepClose _ hi =>
    have hsweep : Sweeping s := h
    have hopen : s.fds s.i ≠ none := (hsweep.open_iff s.i).mpr ⟨hi, Nat.le_refl _⟩
    exact Or.inr ⟨.release s.i, step_book_close hopen⟩

/-- **The server keeps a book of correct use**, whatever else it does. -/
theorem book_of_reachable (h : Reachable Steps Initial s) :
    Reachable (Fires Book.step) (· = Book.empty) s.book := by
  refine h.simulation (fun s h0 => ?_) fun s e s' hr hs => ?_
  · have hnone : s.acqOf = fun _ => none := funext fun sd => acqOf_eq_none.mpr (h0.fds sd)
    have hclosed : s.closed = [] := by simp [Server.closed, h0.calls]
    unfold Server.book Book.empty
    rw [hnone, hclosed, h0.acquired]
  · obtain ⟨hpc, ht, hk⟩ := turn_of_steps hs
    have hinv : InvAt s e.pc := hpc ▸ inv_of_reachable hr
    exact book_turn ht hk hinv

theorem balanced_book (h : Reachable Steps Initial s) : Balanced s.book :=
  balanced_of_reachable (book_of_reachable h)

/-! ## The listening socket is the first descriptor -/

def ListenFirst (s : Server) : Prop := ∀ a, s.acqOf s.listenSd = some a → a = 0

theorem ListenFirst.close (h : ListenFirst s) (sd : ℕ) : ListenFirst (s.close sd) := by
  intro a ha
  have ha : (s.close sd).acqOf s.listenSd = some a := ha
  rw [acqOf_close] at ha
  by_cases hl : s.listenSd = sd
  · simp [hl] at ha
  · exact h a (by simpa [hl] using ha)

theorem listenFirst_turn (ht : Turn s e s') (hk : Kernel s e) (hinv : InvAt s e.pc)
    (h : ListenFirst s) : ListenFirst s' := by
  cases ht with
  | socketError | bind | listen | listenUndefined | selectUndefined | selectError
  | selectTimeout | selectReady | scanUndefined | scanSkip | scanListen | scanConn | scanEnd
  | scanAgain | acceptError | recvError | recvClosed | recvData | sendError | send
  | sendKilled | closeNot | sweepUndefined | sweepSkip | sweepEnd =>
    exact h
  | ioctl =>
    intro a ha
    exact h a ((congrFun (acqOf_setNonblocking s.listenSd) s.listenSd).symm.trans ha)
  | acceptUndefined | acceptAdd =>
    intro a ha
    exact h a ((congrFun (acqOf_setNonblocking s.newSd) s.listenSd).symm.trans ha)
  | socket sd =>
    obtain ⟨-, hzero⟩ := hinv
    intro a ha
    have hsd : (s.acquire sd).acqOf sd = some s.acquired := by simp [acqOf_acquire]
    rw [← hzero]
    exact Option.some.inj (ha.symm.trans hsd)
  | accept sd =>
    have hfresh : s.fds sd = none := hk
    have hne : s.listenSd ≠ sd := by
      rintro rfl
      exact hinv.listen_open (by simp [Event.pc]) hfresh
    intro a ha
    have hold : (s.acquire sd).acqOf s.listenSd = s.acqOf s.listenSd := by
      simp [acqOf_acquire, hne]
    exact h a (hold.symm.trans ha)
  | ioctlError | bindError | listenError | acceptIoctlError => exact h.close s.listenSd
  | closeUndefined | closeMax | close | sweepClose => exact h.close s.i

theorem listenFirst_of_reachable (h : Reachable Steps Initial s) : ListenFirst s := by
  refine invariant_of_turn (fun s h0 a ha => ?_) (fun _ _ _ => listenFirst_turn) h
  rw [acqOf_eq_none.mpr (h0.fds _)] at ha
  cases ha

/-! ## The set and its maximum -/

/-- `sd` is a connection that `accept()` has returned and that is not closed.  The
acquisition with number 0 is that of the listening socket. -/
def Server.Accepted (s : Server) (sd : ℕ) : Prop := ∃ a, s.acqOf sd = some a ∧ 0 < a

theorem accepted_of_open (h : Reachable Steps Initial s) (hlisten : s.fds s.listenSd ≠ none)
    {sd : ℕ} (hopen : s.fds sd ≠ none) (hne : sd ≠ s.listenSd) : s.Accepted sd := by
  obtain ⟨d, hd⟩ := Option.ne_none_iff_exists'.mp hopen
  obtain ⟨l, hl⟩ := Option.ne_none_iff_exists'.mp hlisten
  have hsd : s.acqOf sd = some d.acq := by simp [Server.acqOf, hd]
  have hls : s.acqOf s.listenSd = some l.acq := by simp [Server.acqOf, hl]
  refine ⟨d.acq, hsd, Nat.pos_of_ne_zero fun h0 => hne ?_⟩
  -- both would be acquisition 0
  have hl0 : l.acq = 0 := listenFirst_of_reachable h _ hls
  exact (balanced_book h).unique sd s.listenSd 0 (h0 ▸ hsd) (hl0 ▸ hls)

/-- **`master_set` is exact** at the top of the outer loop and in each turn of the scan:
it holds the listening socket and the accepted connections not yet closed, and `max_sd`
is its maximum.  So where the connection at the maximum is closed, the search for the
new one ends, and not below the listening socket. -/
theorem masterSet_exact (h : Reachable Steps Initial s) :
    (s.pc = .select ∨ s.pc = .scan →
      (∀ sd, sd ∈ s.masterSet ↔ sd = s.listenSd ∨ s.Accepted sd) ∧
        IsGreatest {sd | sd ∈ s.masterSet} s.maxSd) ∧
    (s.pc = .closeConn → s.closeConn = true → s.i = s.maxSd →
      ∃ master k, fdClr s.i s.masterSet = some master ∧ master.lower s.maxSd = some k ∧
        s.listenSd ≤ k ∧ IsGreatest {sd | sd ∈ master} k) := by
  have hinv : InvAt s s.pc := inv_of_reachable h
  constructor
  · intro hpc
    have hrep : Rep s none := by
      rcases hpc with hpc | hpc <;> rw [hpc] at hinv
      · exact hinv
      · exact hinv.1
    refine ⟨fun sd => ?_, hrep.greatest⟩
    rw [hrep.mem_iff]
    constructor
    · rintro ⟨hopen, -⟩
      by_cases hsd : sd = s.listenSd
      · exact Or.inl hsd
      · exact Or.inr (accepted_of_open h (hrep.isOpen hrep.listen) hopen hsd)
    · rintro (rfl | ⟨a, ha, -⟩)
      · exact ⟨hrep.isOpen hrep.listen, by simp⟩
      · refine ⟨fun hnone => ?_, by simp⟩
        rw [acqOf_eq_none.mpr hnone] at ha
        cases ha
  · intro hpc _ _
    rw [hpc] at hinv
    have hh : Handling s := hinv
    obtain ⟨master, hm⟩ := fdClr_of_mem hh.mem
    obtain ⟨k, hk, hle, hgreatest⟩ := hh.lower hm
    exact ⟨master, k, hm, hk, hle, hgreatest⟩

theorem masterSet_exact_closing :
    (Run Steps start oneClient (serve oneClient) ∧ (serve oneClient).pc = .select ∧
      (serve oneClient).acquired = 2) ∧
    (Run Steps start closing (serve closing) ∧ (serve closing).pc = .closeConn ∧
      (serve closing).closeConn = true ∧ (serve closing).i = (serve closing).maxSd) ∧
    ((∀ sd, sd ∈ (serve oneClient).masterSet ↔
        sd = (serve oneClient).listenSd ∨ (serve oneClient).Accepted sd) ∧
      IsGreatest {sd | sd ∈ (serve oneClient).masterSet} (serve oneClient).maxSd) ∧
    ∃ master k, fdClr (serve closing).i (serve closing).masterSet = some master ∧
      master.lower (serve closing).maxSd = some k ∧ (serve closing).listenSd ≤ k ∧
      IsGreatest {sd | sd ∈ master} k :=
  ⟨⟨run_start (by decide), by decide, by decide⟩,
    ⟨run_start (by decide), by decide, by decide, by decide⟩,
    (masterSet_exact (reachable_serve (by decide))).1 (Or.inl (by decide)),
    (masterSet_exact (reachable_serve (by decide))).2 (by decide) (by decide) (by decide)⟩

/-! ## Every descriptor is closed once -/

/-- **No leak and no double close**: at the end of `main()` every acquisition has been
passed to `close()` once, and `close()` was never called on a descriptor that was not
open. -/
theorem closed_once (h : Reachable Steps Initial s) (hend : s.pc = .finished) :
    (∀ a < s.acquired, s.closed.count (some a) = 1) ∧ none ∉ s.closed := by
  have hinv : InvAt s s.pc := inv_of_reachable h
  rw [hend] at hinv
  have hnone : ∀ sd, s.fds sd = none := hinv
  exact (balanced_book h).settled fun sd => acqOf_eq_none.mpr (hnone sd)

theorem closed_once_oneVisit :
    (Run Steps start oneVisit (serve oneVisit) ∧ (serve oneVisit).pc = .finished ∧
      (serve oneVisit).acquired = 2) ∧
    (∀ a < (serve oneVisit).acquired, (serve oneVisit).closed.count (some a) = 1) ∧
      none ∉ (serve oneVisit).closed :=
  ⟨⟨run_start (by decide), by decide, by decide⟩,
    closed_once (reachable_serve (by decide)) (by decide)⟩

/-! ## No blocking call -/

/-- An `accept()`, `recv()` or `send()` is on a nonblocking descriptor. -/
def Call.Nonblocking : Call → Prop
  | .accept d | .recv d _ | .send d _ _ => ∃ d', d = some d' ∧ d'.nonblocking = true
  | .select _ | .readable .. | .close _ => True

/-- None of the calls can block, but for `select()`. -/
def NoneBlocks (calls : List Call) : Prop := ∀ c ∈ calls, c.Nonblocking

theorem Rep.member_nonblocking (h : Rep s none) {sd : ℕ} (hsd : sd ∈ s.masterSet) :
    ∃ d, s.fds sd = some d ∧ d.nonblocking = true := by
  obtain ⟨d, hd⟩ := Option.ne_none_iff_exists'.mp (h.isOpen hsd)
  exact ⟨d, hd, h.nonblocking sd d hd (by simp)⟩

theorem nonblocking_turn (ht : Turn s e s') (h : InvAt s e.pc)
    (hc : NoneBlocks s.calls) : NoneBlocks s'.calls := by
  cases ht with
  | socketError | socket | ioctl | bind | listenUndefined | listen | selectUndefined
  | scanUndefined | scanSkip | scanEnd | scanAgain | acceptUndefined | acceptAdd | closeNot
  | sweepUndefined | sweepSkip | sweepEnd => exact hc
  | ioctlError | bindError | listenError | selectError | selectTimeout | selectReady
  | scanListen | scanConn | acceptIoctlError | closeUndefined | closeMax | close | sweepClose =>
    exact List.forall_mem_cons.mpr ⟨trivial, hc⟩
  | acceptError | accept =>
    obtain ⟨hrep, -⟩ := h
    exact List.forall_mem_cons.mpr ⟨hrep.member_nonblocking hrep.listen, hc⟩
  | recvError | recvClosed | recvData | sendError | send | sendKilled =>
    have hh : Handling s := h
    exact List.forall_mem_cons.mpr ⟨hh.rep.member_nonblocking hh.mem, hc⟩

theorem noneBlocks_of_reachable (h : Reachable Steps Initial s) : NoneBlocks s.calls := by
  refine invariant_of_turn (I := fun s => NoneBlocks s.calls) (fun s h0 => ?_)
    (fun s e s' ht _ hinv hc => nonblocking_turn ht hinv hc) h
  rw [h0.calls]
  exact List.forall_mem_nil _

/-- **The server blocks in `select()` only**: whatever descriptor `accept()`, `recv()` and
`send()` are called on, `ioctl(FIONBIO)` has succeeded since it was obtained. -/
theorem calls_nonblocking (h : Reachable Steps Initial s) : NoneBlocks s.calls :=
  noneBlocks_of_reachable h

theorem calls_nonblocking_oneVisit :
    (serve oneVisit).pc = .finished ∧ NoneBlocks (serve oneVisit).calls :=
  ⟨by decide, calls_nonblocking (reachable_serve (by decide))⟩

end SimpleTests.Sockets
