import SimpleTests.UseSelect

/-! # The exits of `mysocket()`

On every way through `mysocket()` that returns, the descriptors it has obtained are closed,
in the opposite order, and nothing else is; nothing is read from a closed one; and the
status is `EXIT_SUCCESS` only for a receive loop that a signal has ended
(`mysocket_settled`).

The loop invariant is `Serving`.  An exit makes no calls but those that close descriptors
and write messages, and these keep all else that the record says (`Closes.view`).
-/
namespace SimpleTests.Sockets

variable {calls : List SysCall} {c : SysCall} {p q : Process} {a : Answers} {sock connFd : ℕ}

/-- `recv()` returned 0 or -1, and `errno` was `EINTR` then. -/
def Interrupted (calls : List SysCall) : Prop :=
  ∃ sd r, .recv sd r .eintr ∈ calls ∧ ∀ data, r = .ok data → data = []

theorem readsOpen_nil : ReadsOpen [] := by
  intro later sd r e earlier h
  simp at h

theorem readsOpen_cons : ReadsOpen (c :: calls) ↔
    (∀ sd r e, c = .recv sd r e → sd ∉ closed calls) ∧ ReadsOpen calls := by
  constructor
  · intro h
    constructor
    · intro sd r e hc
      exact h [] sd r e calls (by rw [hc]; rfl)
    · intro later sd r e earlier hcalls
      exact h (c :: later) sd r e earlier (by rw [hcalls]; rfl)
  · rintro ⟨hc, hcalls⟩ later sd r e earlier h
    rcases List.cons_eq_append_iff.mp h with ⟨-, heq⟩ | ⟨later', -, heq⟩
    · obtain ⟨hrecv, rfl⟩ := List.cons.inj heq
      exact hc sd r e hrecv.symm
    · exact hcalls later' sd r e earlier heq

theorem interrupted_cons : Interrupted (c :: calls) ↔
    (∃ sd r, c = .recv sd r .eintr ∧ ∀ data, r = .ok data → data = []) ∨ Interrupted calls := by
  constructor
  · rintro ⟨sd, r, hmem, hr⟩
    rcases List.mem_cons.mp hmem with heq | hmem
    · exact Or.inl ⟨sd, r, heq.symm, hr⟩
    · exact Or.inr ⟨sd, r, hmem, hr⟩
  · rintro (⟨sd, r, rfl, hr⟩ | ⟨sd, r, hmem, hr⟩)
    · exact ⟨sd, r, List.mem_cons_self, hr⟩
    · exact ⟨sd, r, List.mem_cons_of_mem _ hmem, hr⟩

theorem not_interrupted_nil : ¬ Interrupted [] := by
  rintro ⟨sd, r, hmem, -⟩
  exact absurd hmem List.not_mem_nil

theorem Closes.readsOpen (h : Closes p q) : ReadsOpen q.calls ↔ ReadsOpen p.calls := by
  refine iff_of_eq (h.view fun c calls hc => propext ?_)
  refine readsOpen_cons.trans (and_iff_right fun sd r e heq => ?_)
  rw [heq] at hc
  exact hc.elim

theorem Closes.interrupted (h : Closes p q) : Interrupted q.calls ↔ Interrupted p.calls := by
  refine iff_of_eq (h.view fun c calls hc => propext ?_)
  refine interrupted_cons.trans (or_iff_right ?_)
  rintro ⟨sd, r, heq, -⟩
  rw [heq] at hc
  exact hc.elim

/-! ## What a return leaves behind -/

/-- The descriptors are settled when `mysocket()` returns `status`.  The record has the
most recent calls first, and so do the two lists of descriptors. -/
structure Settled (a : Answers) (status : Status) (q : Process) : Prop where
  /-- What was obtained is closed, the last one first, and nothing else is closed. -/
  closed_eq : closed q.calls = (obtained q.calls).reverse
  /-- Each descriptor is closed once, since `accept()` returns none that is open. -/
  once : a.accept ≠ a.socket → ∀ sd ∈ obtained q.calls, (closed q.calls).count sd = 1
  readsOpen : ReadsOpen q.calls
  success_iff : status = .success ↔ Interrupted q.calls ∧ a.closeSock = .ok ()

/-- What is left to be shown at an exit that closes `socks`, one after the other. -/
theorem settled_of_closes {status : Status} {socks : List ℕ} (h : Closes p q)
    (hobt : obtained p.calls = socks) (hcl : closed q.calls = socks.reverse)
    (hnodup : a.accept ≠ a.socket → socks.Nodup) (hreads : ReadsOpen p.calls)
    (hstatus : status = .success ↔ Interrupted p.calls ∧ a.closeSock = .ok ()) :
    Settled a status q := by
  refine ⟨?_, fun hne sd hsd => ?_, h.readsOpen.mpr hreads, ?_⟩
  · rw [hcl, h.obtained, hobt]
  · rw [h.obtained, hobt] at hsd
    rw [hcl]
    exact List.count_eq_one_of_mem (List.nodup_reverse.mpr (hnodup hne)) (List.mem_reverse.mpr hsd)
  · rw [h.interrupted]
    exact hstatus

/-! ## The receive loop -/

/-- **The loop invariant**: both descriptors are open, and no `recv()` has failed. -/
structure Serving (sock connFd : ℕ) (p : Process) : Prop where
  obtained_eq : obtained p.calls = [connFd, sock]
  closed_eq : closed p.calls = []
  readsOpen : ReadsOpen p.calls
  interrupted : ¬ Interrupted p.calls

theorem Serving.readsOpen_recv (h : Serving sock connFd p) (r : Except Errno Received) :
    ReadsOpen (p.recv connFd r).calls := by
  refine readsOpen_cons.mpr ⟨fun sd r e _ => ?_, h.readsOpen⟩
  rw [h.closed_eq]
  exact List.not_mem_nil

/-- Whether a `recv()` was interrupted shows in `errno`, if it has delivered nothing. -/
theorem Serving.interrupted_recv (h : Serving sock connFd p) (r : Except Errno Received) :
    Interrupted (p.recv connFd r).calls ↔
      (p.recv connFd r).errno = .eintr ∧ ∀ data, r = .ok data → data.bytes = [] := by
  constructor
  · intro hint
    rcases interrupted_cons.mp hint with ⟨sd, r', hc, hr'⟩ | hint
    · obtain ⟨-, rfl, he⟩ := SysCall.recv.inj hc
      refine ⟨he, fun data hdata => hr' _ ?_⟩
      rw [hdata]
      rfl
    · exact absurd hint h.interrupted
  · rintro ⟨he, hr⟩
    refine interrupted_cons.mpr (Or.inl ⟨connFd, _, by rw [← he]; rfl, fun data hdata => ?_⟩)
    rcases r with e | x
    · cases hdata
    · cases hdata
      exact hr x rfl

/-- Bytes are received and printed. -/
theorem Serving.turn (h : Serving sock connFd p) {data : Received} (hd : data.bytes ≠ [])
    (text : Option (List UInt8)) (write : Option Errno) :
    Serving sock connFd ((p.recv connFd (.ok data)).call (.print text) write) := by
  refine ⟨h.obtained_eq, h.closed_eq, ?_, ?_⟩
  · refine readsOpen_cons.mpr ⟨fun sd r e hc => ?_, h.readsOpen_recv _⟩
    cases hc
  · intro hint
    rcases interrupted_cons.mp hint with ⟨sd, r, hc, -⟩ | hint
    · cases hc
    · exact hd (((h.interrupted_recv _).mp hint).2 data rfl)

/-- `recv()` has returned 0 or -1, and the function returns. -/
theorem settled_leave (h : Serving sock connFd p) (hne : a.accept ≠ a.socket → connFd ≠ sock)
    {r : Except Errno Received} (hr : ∀ data, r = .ok data → data.bytes = []) {status : Status}
    (hleave : leave a sock connFd (p.recv connFd r) = (.returned status, q)) :
    Settled a status q := by
  have hq : (leave a sock connFd (p.recv connFd r)).2 = q := congrArg Prod.snd hleave
  have hcloses : Closes (p.recv connFd r) q := hq ▸ closes_leave a sock connFd _
  have hstatus : Outcome.returned (a.status (p.recv connFd r).errno) = .returned status :=
    (outcome_leave ..).symm.trans (congrArg Prod.fst hleave)
  refine settled_of_closes hcloses h.obtained_eq ?_ (fun hacc => ?_) (h.readsOpen_recv r) ?_
  · rw [← hq, closed_leave]
    exact congrArg (sock :: connFd :: ·) h.closed_eq
  · simpa using hne hacc
  · rw [← Outcome.returned.inj hstatus, status_eq_success, h.interrupted_recv]
    exact and_congr_left fun _ => (and_iff_left hr).symm

/-- **The loop**, however often it turns. -/
theorem settled_receive (hne : a.accept ≠ a.socket → connFd ≠ sock) (rs : List Reception)
    (buffer : StreamBuffer) (h : Serving sock connFd p) {status : Status}
    (hrun : receive a sock connFd rs buffer p = (.returned status, q)) : Settled a status q := by
  induction rs generalizing buffer p with
  | nil => cases hrun
  | cons x rest ih =>
    obtain ⟨r, write⟩ := x
    rcases r with e | data
    · refine settled_leave h hne (fun data hdata => ?_) hrun
      cases hdata
    · by_cases hd : data.bytes.length ≤ 0
      · refine settled_leave h hne (fun data' hdata => ?_) ((if_pos hd).symm.trans hrun)
        cases hdata
        exact List.length_eq_zero_iff.mp (Nat.le_zero.mp hd)
      · have hdata : data.bytes ≠ [] := fun hnil => hd (by rw [hnil]; exact Nat.le_refl 0)
        exact ih _ (h.turn hdata _ _) ((if_neg hd).symm.trans hrun)

/-! ## All exits -/

/-- Before the receive loop nothing is read. -/
def Unread (calls : List SysCall) : Prop := ∀ sd r e, .recv sd r e ∉ calls

/-- An error exit before the receive loop. -/
theorem settled_early {text : String} (socks : List (ℕ × Except Errno Unit))
    (hclosed : closed p.calls = []) (hobt : obtained p.calls = socks.map Prod.fst)
    (hnodup : a.accept ≠ a.socket → (socks.map Prod.fst).Nodup) (hunread : Unread p.calls) :
    Settled a .failure (giveUp text socks p).2 := by
  refine settled_of_closes (closes_giveUp text socks p) hobt ?_ hnodup ?_ ?_
  · rw [closed_giveUp, hclosed, List.append_nil]
  · intro later sd r e earlier heq
    refine absurd ?_ (hunread sd r e)
    rw [heq]
    exact List.mem_append_right _ List.mem_cons_self
  · apply iff_of_false Status.noConfusion
    rintro ⟨⟨sd, r, hmem, -⟩, -⟩
    exact hunread sd r _ hmem

theorem serving_selected (e : Errno) (port : ℤ) (addr : InAddr) (n : ℕ) :
    Serving sock connFd (Process.selected ⟨e, []⟩ a port addr sock connFd n) := by
  refine ⟨rfl, rfl, ?_, ?_⟩
  · simp [readsOpen_cons, readsOpen_nil, Process.selected, Process.accepted, Process.listening,
      Process.bound, Process.socketed]
  · simp [interrupted_cons, not_interrupted_nil, Process.selected, Process.accepted,
      Process.listening, Process.bound, Process.socketed]

/-- **Every return of `mysocket()` leaves its descriptors settled**, whatever the calls
have returned and however often data came in: each descriptor it got is closed once, the
accepted one before the listening one, no other is closed, and none is read after that; and
the status is `EXIT_SUCCESS` exactly if `recv()` was seen to return 0 or less with `errno`
equal to `EINTR` and the listening socket could be closed. -/
theorem mysocket_settled {port : ℤ} {e : Errno} {status : Status}
    (hrun : mysocket a port ⟨e, []⟩ = (.returned status, q)) : Settled a status q := by
  have hexit := exit_mysocket a port
  generalize mysocket a port = run at hexit hrun
  have distinct : ∀ {addr sock connFd}, a.Accepts addr sock connFd →
      a.accept ≠ a.socket → connFd ≠ sock := by
    intro addr sock connFd ha hne heq
    exact hne (by rw [ha.accept, ha.socket, heq])
  cases hexit with
  | inetPton r hr h =>
    cases hrun
    exact settled_early [] rfl rfl (fun _ => List.nodup_nil) (by simp [Unread])
  | socket addr e' hi h =>
    cases hrun
    exact settled_early [] rfl rfl (fun _ => List.nodup_nil) (by simp [Unread])
  | bind addr sock e' hs h =>
    cases hrun
    exact settled_early [(sock, a.closeSock)] rfl rfl (fun _ => List.nodup_singleton _)
      (by simp [Unread, Process.socketed])
  | listen addr sock e' hs hb h =>
    cases hrun
    exact settled_early [(sock, a.closeSock)] rfl rfl (fun _ => List.nodup_singleton _)
      (by simp [Unread, Process.bound, Process.socketed])
  | accept addr sock e' hl h =>
    cases hrun
    exact settled_early [(sock, a.closeSock)] rfl rfl (fun _ => List.nodup_singleton _)
      (by simp [Unread, Process.listening, Process.bound, Process.socketed])
  | undefined => cases hrun
  | select addr sock connFd r ha hlt hr h =>
    cases hrun
    refine settled_early [(connFd, a.closeConn), (sock, a.closeSock)] rfl rfl (fun hne => ?_)
      (by simp [Unread, Process.accepted, Process.listening, Process.bound, Process.socketed])
    simpa using distinct ha hne
  | loop addr sock connFd n hc =>
    exact settled_receive (distinct hc.toAccepts) a.receptions .zero
      (serving_selected e port addr n) hrun

/-- A connection on descriptors 3 and 4, and what its `recv()` calls return. -/
def connection (receptions : List Reception) : Answers where
  inetPton := .ok (some ⟨127, 0, 0, 1⟩)
  socket := .ok 3
  bind := .ok ()
  listen := .ok ()
  greeting := none
  accept := .ok 4
  select := .ok 1
  receptions := receptions
  closeConn := .ok ()
  closeSock := .ok ()

/-- Data comes in, then a signal is caught. -/
theorem settled_connection :
    ∃ q, mysocket (connection [⟨.ok ⟨[104, 105], by decide⟩, none⟩, ⟨.error .eintr, none⟩]) 22649
        ⟨.other 0, []⟩ = (.returned .success, q) ∧
      Settled (connection [⟨.ok ⟨[104, 105], by decide⟩, none⟩, ⟨.error .eintr, none⟩]) .success q :=
  ⟨_, rfl, mysocket_settled rfl⟩

end SimpleTests.Sockets
