import SimpleTests.UseSelectDescriptors
import SimpleTests.SocketProtocol

/-! # `mysocket()` and the order of socket calls

`SysCall.ops` reads the calls on sockets off the record of `mysocket()`.  Whatever the calls
return and however often data comes in, they are in order, also those of a run that still
waits for data; and where the function returns, no socket is left open
(`mysocket_conforms`).
-/
namespace SimpleTests.Sockets
open Transition SocketProtocol

/-- A call on sockets. -/
def SysCall.ops : SysCall → List (Op ℕ)
  | .socket (.ok sd) => [.socket sd]
  | .bind sd _ r => [.bind sd (failed r).isNone]
  | .listen sd r => [.listen sd (failed r).isNone]
  | .accept sd (.ok conn) => [.accept sd (some conn)]
  | .accept sd (.error _) => [.accept sd none]
  -- `readSet` has one member, and `nfds` is one above it
  | .select nfds _ => [.poll [nfds - 1]]
  | .recv sd _ _ => [.transfer sd]
  | .close sd _ => [.close sd]
  | .inetPton _ | .socket (.error _) | .inetNtop .. | .stdout _ | .print _ | .stderr _ => []

/-- The calls on sockets in a record, the first one first. -/
def socketOpsOf (calls : List SysCall) : List (Op ℕ) := calls.reverse.flatMap SysCall.ops

/-- The calls of a process are in order and lead to the table. -/
def InOrder (p : Process) (t : Table ℕ) : Prop := Conforms Table.empty (socketOpsOf p.calls) t

variable {p : Process} {t t' : Table ℕ} {a : Answers} {sock connFd : ℕ}

/-! ## One call -/

theorem inOrder_nil (e : Errno) : InOrder ⟨e, []⟩ Table.empty := .nil _

theorem InOrder.call (h : InOrder p t) {c : SysCall} (hc : Conforms t c.ops t')
    (e : Option Errno) : InOrder (p.call c e) t' := by
  unfold InOrder socketOpsOf
  rw [Process.calls_call, List.reverse_cons, List.flatMap_append, List.flatMap_singleton]
  exact h.append hc

/-- A call on no socket. -/
theorem InOrder.other (h : InOrder p t) {c : SysCall} (hc : c.ops = []) (e : Option Errno) :
    InOrder (p.call c e) t := by
  apply h.call
  rw [hc]
  exact .nil t

theorem InOrder.closeSocket (h : InOrder p t) (hopen : t sock ≠ none) (r : Except Errno Unit) :
    InOrder (closeSocket sock r p).2 (Function.update t sock none) := by
  have hclose := h.call (c := .close sock r) (.single (Table.step_close hopen)) (failed r)
  rcases r with e | u
  · exact hclose.other rfl _
  · exact hclose

/-! ## The states on the way -/

/-- `sock` is open, and nothing else. -/
def alone (sock : ℕ) (phase : Phase) : Table ℕ := Function.update Table.empty sock (some phase)

/-- `sock` listens, and `connFd` is a connection. -/
def serving (sock connFd : ℕ) : Table ℕ :=
  Function.update (alone sock .listening) connFd (some .connected)

theorem alone_self (sock : ℕ) (phase : Phase) : alone sock phase sock = some phase :=
  Function.update_self ..

theorem alone_update (sock : ℕ) (phase : Phase) (x : Option Phase) :
    Function.update (alone sock phase) sock x = Function.update Table.empty sock x :=
  Function.update_idem ..

theorem alone_close (sock : ℕ) (phase : Phase) :
    Function.update (alone sock phase) sock none = Table.empty := by
  rw [alone_update]
  exact Function.update_eq_self sock (Table.empty : Table ℕ)

theorem serving_connFd (sock connFd : ℕ) : serving sock connFd connFd = some .connected :=
  Function.update_self ..

/-- The connection is closed. -/
theorem serving_close (hne : connFd ≠ sock) :
    Function.update (serving sock connFd) connFd none = alone sock .listening := by
  have hfree : alone sock .listening connFd = none := Function.update_of_ne hne ..
  unfold serving
  rw [Function.update_idem, ← hfree, Function.update_eq_self]

/-! ## The ways through the function -/

/-- The calls of a run are in order, and where it has returned no socket is open. -/
def Ordered (r : Outcome × Process) : Prop :=
  ∃ t, InOrder r.2 t ∧ ∀ status, r.1 = .returned status → t = Table.empty

theorem ordered_giveUp_nil (h : InOrder p Table.empty) (text : String) :
    Ordered (giveUp text [] p) :=
  ⟨_, h.other rfl _, fun _ _ => rfl⟩

theorem ordered_giveUp_sock {phase : Phase} (h : InOrder p (alone sock phase)) (text : String)
    (r : Except Errno Unit) : Ordered (giveUp text [(sock, r)] p) := by
  have hopen : alone sock phase sock ≠ none := by simp [alone_self]
  have hclosed := (h.other (c := .stderr text) rfl none).closeSocket hopen r
  rw [alone_close] at hclosed
  exact ⟨_, hclosed, fun _ _ => rfl⟩

/-- Both descriptors are closed, the connection first. -/
theorem inOrder_close_both (hne : connFd ≠ sock) (h : InOrder p (serving sock connFd))
    (r r' : Except Errno Unit) :
    InOrder (closeSocket sock r' (closeSocket connFd r p).2).2 Table.empty := by
  have hconn : serving sock connFd connFd ≠ none := by simp [serving_connFd]
  have hsock : alone sock .listening sock ≠ none := by simp [alone_self]
  have hfirst := h.closeSocket hconn r
  rw [serving_close hne] at hfirst
  have hsecond := hfirst.closeSocket hsock r'
  rw [alone_close] at hsecond
  exact hsecond

theorem ordered_giveUp_both (hne : connFd ≠ sock) (h : InOrder p (serving sock connFd))
    (text : String) (r r' : Except Errno Unit) :
    Ordered (giveUp text [(connFd, r), (sock, r')] p) :=
  ⟨_, inOrder_close_both hne (h.other rfl _) r r', fun _ _ => rfl⟩

theorem ordered_leave (hne : connFd ≠ sock) (h : InOrder p (serving sock connFd)) :
    Ordered (leave a sock connFd p) := by
  unfold leave
  by_cases he : p.errno = .eintr
  · rw [if_pos he]
    exact ⟨_, inOrder_close_both hne h a.closeConn a.closeSock, fun _ _ => rfl⟩
  · rw [if_neg he]
    exact ordered_giveUp_both hne h _ a.closeConn a.closeSock

theorem InOrder.select (h : InOrder p (serving sock connFd)) (r : Except Errno ℕ) :
    InOrder (p.call (.select (connFd + 1) r) (failed r)) (serving sock connFd) := by
  apply h.call
  refine .single (Table.step_poll ?_)
  exact List.forall_mem_singleton.mpr (Or.inr (serving_connFd sock connFd))

theorem InOrder.recv (h : InOrder p (serving sock connFd)) (r : Except Errno Received) :
    InOrder (p.recv connFd r) (serving sock connFd) :=
  h.call (.single (Table.step_transfer (serving_connFd sock connFd))) _

/-- **The receive loop**, however often it turns. -/
theorem ordered_receive (hne : connFd ≠ sock) (rs : List Reception) (buffer : StreamBuffer)
    (h : InOrder p (serving sock connFd)) : Ordered (receive a sock connFd rs buffer p) := by
  induction rs generalizing buffer p with
  | nil =>
    refine ⟨_, h, fun status hstatus => ?_⟩
    cases hstatus
  | cons x rest ih =>
    obtain ⟨r, write⟩ := x
    rcases r with e | data
    · exact ordered_leave hne (h.recv _)
    · unfold receive
      by_cases hd : data.bytes.length ≤ 0
      · simp only [if_pos hd]
        exact ordered_leave hne (h.recv _)
      · simp only [if_neg hd]
        exact ih _ ((h.recv _).other rfl _)

section Setup
variable {port : ℤ} {addr : InAddr} {e : Errno}

theorem inOrder_socketed (e : Errno) (addr : InAddr) (sock : ℕ) :
    InOrder (Process.socketed ⟨e, []⟩ addr sock) (alone sock .created) :=
  ((inOrder_nil e).other rfl _).call (.single (Table.step_socket rfl)) _

theorem inOrder_bind (h : InOrder p (alone sock .created)) (x : SockaddrIn)
    (r : Except Errno Unit) (e : Option Errno) : InOrder (p.call (.bind sock x r) e)
      (alone sock (if (failed r).isNone then .bound else .created)) := by
  rcases r with e' | u
  · exact h.call (.single (Table.step_bind (alone_self sock .created) false)) e
  · have hstep := Table.step_bind (alone_self sock .created) true
    rw [if_pos rfl, alone_update] at hstep
    exact h.call (.single hstep) e

theorem inOrder_listen (h : InOrder p (alone sock .bound)) (r : Except Errno Unit)
    (e : Option Errno) : InOrder (p.call (.listen sock r) e)
      (alone sock (if (failed r).isNone then .listening else .bound)) := by
  rcases r with e' | u
  · exact h.call (.single (Table.step_listen (alone_self sock .bound) false)) e
  · have hstep := Table.step_listen (alone_self sock .bound) true
    rw [if_pos rfl, alone_update] at hstep
    exact h.call (.single hstep) e

theorem inOrder_listening (e : Errno) (a : Answers) (port : ℤ) (addr : InAddr) (sock : ℕ) :
    InOrder (Process.listening ⟨e, []⟩ a port addr sock) (alone sock .listening) :=
  (inOrder_listen (inOrder_bind (inOrder_socketed e addr sock) _ (.ok ()) none) (.ok ()) none).other
    rfl _

theorem inOrder_accepted (e : Errno) (a : Answers) (port : ℤ) (addr : InAddr)
    (hne : connFd ≠ sock) :
    InOrder (Process.accepted ⟨e, []⟩ a port addr sock connFd) (serving sock connFd) := by
  apply (inOrder_listening e a port addr sock).call
  exact .single (Table.step_accept (alone_self sock .listening) (Function.update_of_ne hne _ _))

end Setup

/-- **The calls of `mysocket()` on sockets are in order**, in every run, and where it returns
no socket is open.  `accept()` does not return the descriptor of the listening socket. -/
theorem mysocket_conforms {port : ℤ} {e : Errno} (hacc : ∀ sd, a.socket = .ok sd → a.accept ≠ .ok sd) :
    Ordered (mysocket a port ⟨e, []⟩) := by
  have hexit := exit_mysocket a port
  generalize mysocket a port = run at hexit
  have hnil := inOrder_nil e
  have distinct : ∀ {addr sock connFd}, a.Accepts addr sock connFd → connFd ≠ sock := by
    intro addr sock connFd ha heq
    exact hacc sock ha.socket (heq ▸ ha.accept)
  cases hexit with
  | inetPton => exact ordered_giveUp_nil (hnil.other rfl _) _
  | socket => exact ordered_giveUp_nil ((hnil.other rfl _).other rfl _) _
  | bind addr sock e' =>
    exact ordered_giveUp_sock (inOrder_bind (inOrder_socketed e addr sock) _ (.error e') _) _ _
  | listen addr sock e' =>
    have hbound := inOrder_bind (inOrder_socketed e addr sock) ⟨htons (.ofInt port), addr⟩ (.ok ()) none
    exact ordered_giveUp_sock (inOrder_listen hbound (.error e') _) _ _
  | accept addr sock e' =>
    have hlisten := inOrder_listening e a port addr sock
    have hfailed := hlisten.call (c := .accept sock (.error e'))
      (.single (Table.step_accept_none (alone_self sock .listening))) (some e')
    exact ordered_giveUp_sock hfailed _ _
  | undefined addr sock connFd ha =>
    refine ⟨_, inOrder_accepted e a port addr (distinct ha), fun status hstatus => ?_⟩
    cases hstatus
  | select addr sock connFd r ha =>
    exact ordered_giveUp_both (distinct ha) ((inOrder_accepted e a port addr (distinct ha)).select r)
      _ _ _
  | loop addr sock connFd n hc =>
    have hne := distinct hc.toAccepts
    exact ordered_receive hne a.receptions .zero ((inOrder_accepted e a port addr hne).select _)

/-- Data comes in, then a signal is caught. -/
theorem mysocket_conforms_interrupted :
    Ordered (mysocket
      (connection [⟨.ok ⟨[104], Nat.le_add_left 1 1023⟩, none⟩, ⟨.error .eintr, none⟩]) 22649
      ⟨.other 0, []⟩) :=
  mysocket_conforms fun sd hsd hacc => by
    obtain rfl : 3 = sd := Except.ok.inj hsd
    cases hacc

end SimpleTests.Sockets
