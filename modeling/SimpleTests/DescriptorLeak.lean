import SimpleTests.PeerAddress
import SimpleTests.TransitionRuns
import Mathlib.Data.Finset.Basic

/-! # Operations that accept a connection for themselves

`mysocket()` of `mock/socket/mylib.c` and `SysSocket::get_addr()` accept a connection and do
not hand its descriptor to their caller.  Neither closes it.

`openAfter` follows the open descriptors of the process through the record of calls.  Every
call of the two functions leaves the set as it was, or larger by the connection
(`gains_mysocket`, `gains_getAddr`), so over any number of calls the set comes back exactly
if no connection was accepted (`noLeak_iff`).
-/
namespace SimpleTests.Sockets
open Transition

/-! ## `mysocket()` of the mocked library -/

namespace MyLib

/-- The results of the calls. -/
structure Answers where
  socket : Except Errno ℕ
  /-- The result for the literal `192.168.24.130`: 1 with the address, 0 without it. -/
  inetPton : Except Errno (Option InAddr)
  bind : Except Errno Unit
  listen : Except Errno Unit
  accept : Except Errno ℕ
  close : Except Errno Unit

/-- An error exit behind `socket()`. -/
def giveUp (text : String) (sock : ℕ) (r : Except Errno Unit) (p : Process) : Status × Process :=
  (.failure, (closeSocket sock r (p.stderr text)).2)

/-- `mysocket()` -/
def mysocket (a : Answers) (p : Process) : Status × Process :=
  let p := p.call (.socket a.socket) (failed a.socket)
  match a.socket with
  | .error _ => (.failure, p.stderr "mysocket: error getting socket\n")
  | .ok sock =>
  let p := p.call (.inetPton a.inetPton) (failed a.inetPton)
  match a.inetPton with
  | .error _ | .ok none => giveUp "mysocket: error inet_pton\n" sock a.close p
  | .ok (some sinAddr) =>
  -- `sin_port` is 0 from `memset()`
  let p := p.call (.bind sock ⟨⟨0, 0⟩, sinAddr⟩ a.bind) (failed a.bind)
  match a.bind with
  | .error _ => giveUp "mysocket: error bind to socket\n" sock a.close p
  | .ok _ =>
  let p := p.call (.listen sock a.listen) (failed a.listen)
  match a.listen with
  | .error _ => giveUp "mysocket: error listen on socket\n" sock a.close p
  | .ok _ =>
  let p := p.call (.stdout "mysocket:listening on socket and accepting...\nfinish with ^C\n") none
  let p := p.call (.accept sock a.accept) (failed a.accept)
  match a.accept with
  | .error _ => giveUp "mysocket: error accepting on socket\n" sock a.close p
  | .ok _ => closeSocket sock a.close p

/-- The connection that a call accepts, if it gets that far. -/
def Answers.connection (a : Answers) : Option ℕ :=
  match a.socket, a.inetPton, a.bind, a.listen, a.accept with
  | .ok _, .ok (some _), .ok _, .ok _, .ok cfd => some cfd
  | _, _, _, _, _ => none

end MyLib

/-- The connection that a call of `get_addr()` accepts. -/
def SysSocket.Answers.connection (a : SysSocket.Answers) : Option ℕ :=
  match a.accept with
  | .ok (sd, _) => some sd
  | .error _ => none

/-! ## Open descriptors -/

namespace SysCall

/-- The descriptors open behind a call, if `fds` are open before it. -/
def after (fds : Finset ℕ) : SysCall → Finset ℕ
  | .socket (.ok sd) | .accept _ (.ok sd) => insert sd fds
  | .close sd (.ok _) => fds.erase sd
  | _ => fds

/-- A failed `close()`. -/
def closeFails : SysCall → Bool
  | .close _ (.error _) => true
  | _ => false

/-- What is assumed of a call made with `fds` open: the kernel hands out descriptors that are
not open, and `close()` succeeds. -/
def Obliging (fds : Finset ℕ) (c : SysCall) : Prop :=
  (∀ sd ∈ c.obtains, sd ∉ fds) ∧ c.closeFails = false

instance (fds : Finset ℕ) (c : SysCall) : Decidable (c.Obliging fds) :=
  inferInstanceAs (Decidable ((∀ sd ∈ c.obtains, sd ∉ fds) ∧ c.closeFails = false))

end SysCall

/-- The descriptors open behind all the calls of a record. -/
def openAfter (fds : Finset ℕ) : List SysCall → Finset ℕ
  | [] => fds
  | c :: earlier => c.after (openAfter fds earlier)

/-- The assumption on every call of a record. -/
def Obliging (fds : Finset ℕ) : List SysCall → Prop
  | [] => True
  | c :: earlier => c.Obliging (openAfter fds earlier) ∧ Obliging fds earlier

instance Obliging.decidable (fds : Finset ℕ) : ∀ calls, Decidable (Obliging fds calls)
  | [] => .isTrue trivial
  | c :: earlier =>
    have := Obliging.decidable fds earlier
    inferInstanceAs (Decidable (c.Obliging (openAfter fds earlier) ∧ Obliging fds earlier))

/-- `fds'` are the descriptors `fds`, and the connection if there is one. -/
def Gains (fds : Finset ℕ) (connection : Option ℕ) (fds' : Finset ℕ) : Prop :=
  match connection with
  | none => fds' = fds
  | some sd => sd ∉ fds ∧ fds' = insert sd fds

variable {fds fds' : Finset ℕ}

theorem Gains.le_and_eq_iff {connection : Option ℕ} (h : Gains fds connection fds') :
    fds ≤ fds' ∧ (fds' = fds ↔ connection = none) := by
  rcases connection with - | sd
  · exact ⟨h.ge, iff_of_true h rfl⟩
  · obtain ⟨hfresh, rfl⟩ := h
    refine ⟨Finset.subset_insert sd fds, iff_of_false (fun heq => hfresh ?_) (by simp)⟩
    rw [← heq]
    exact Finset.mem_insert_self sd fds

/-! ## One call -/

variable {sock : ℕ} {p : Process} {r : Except Errno Unit}

/-- Between `socket()` and `close()`: `sock` is open, and `fds'` besides. -/
def Owns (fds fds' : Finset ℕ) (sock : ℕ) (p : Process) : Prop :=
  Obliging fds p.calls → sock ∉ fds' ∧ openAfter fds p.calls = insert sock fds'

theorem owns_socket (p : Process) (e : Option Errno) :
    Owns fds (openAfter fds p.calls) sock (p.call (.socket (.ok sock)) e) :=
  fun h => ⟨h.1.1 sock rfl, rfl⟩

theorem Owns.call {c : SysCall} (h : Owns fds fds' sock p) (hc : ∀ fds, c.after fds = fds)
    (e : Option Errno) : Owns fds fds' sock (p.call c e) := by
  intro hobl
  obtain ⟨hsock, hopen⟩ := h hobl.2
  exact ⟨hsock, (hc _).trans hopen⟩

theorem Owns.accept {cfd : ℕ} (h : Owns fds fds' sock p) (e : Option Errno)
    (hobl : Obliging fds (p.call (.accept sock (.ok cfd)) e).calls) :
    cfd ∉ fds' ∧ Owns fds (insert cfd fds') sock (p.call (.accept sock (.ok cfd)) e) := by
  obtain ⟨hsock, hopen⟩ := h hobl.2
  have hcfd : cfd ∉ insert sock fds' := hopen ▸ hobl.1.1 cfd rfl
  obtain ⟨hne, hfresh⟩ := not_or.mp (mt Finset.mem_insert.mpr hcfd)
  refine ⟨hfresh, fun _ => ⟨?_, ?_⟩⟩
  · intro hmem
    exact (Finset.mem_insert.mp hmem).elim (fun heq => hne heq.symm) hsock
  · show insert cfd (openAfter fds p.calls) = _
    rw [hopen, Finset.insert_comm]

theorem obliging_of_closeSocket (h : Obliging fds (closeSocket sock r p).2.calls) :
    Obliging fds p.calls := by
  rcases r with e | u
  · exact h.2.2
  · exact h.2

/-- `close_socket()` leaves what is open besides. -/
theorem Owns.closeSocket (h : Owns fds fds' sock p)
    (hobl : Obliging fds (closeSocket sock r p).2.calls) :
    openAfter fds (closeSocket sock r p).2.calls = fds' := by
  obtain ⟨hsock, hopen⟩ := h (obliging_of_closeSocket hobl)
  rcases r with e | u
  · -- the call before the message would have failed
    cases hobl.2.1.2
  · show (openAfter fds p.calls).erase sock = fds'
    rw [hopen, Finset.erase_insert hsock]

theorem Owns.giveUp {text : String} (h : Owns fds fds' sock p)
    (hobl : Obliging fds (MyLib.giveUp text sock r p).2.calls) :
    openAfter fds (MyLib.giveUp text sock r p).2.calls = fds' :=
  (h.call (fun _ => rfl) none).closeSocket hobl

/-- **`mysocket()` gains the connection**, and closes the socket it listens on. -/
theorem gains_mysocket {a : MyLib.Answers} (h : Obliging fds (MyLib.mysocket a p).2.calls) :
    Gains (openAfter fds p.calls) a.connection (openAfter fds (MyLib.mysocket a p).2.calls) := by
  rcases a with ⟨socket, inetPton, bind, listen, accept, close⟩
  rcases socket with e | sock
  · exact rfl
  have hsocket : Owns fds (openAfter fds p.calls) sock (p.call (.socket (.ok sock)) none) :=
    owns_socket p none
  rcases inetPton with e | addr | sinAddr
  · exact (hsocket.call (fun _ => rfl) (some e)).giveUp h
  · exact (hsocket.call (fun _ => rfl) none).giveUp h
  have haddr := hsocket.call (c := .inetPton (.ok (some sinAddr))) (fun _ => rfl) none
  rcases bind with e | u
  · exact (haddr.call (fun _ => rfl) (some e)).giveUp h
  have hbind := haddr.call (c := .bind sock ⟨⟨0, 0⟩, sinAddr⟩ (.ok u)) (fun _ => rfl) none
  rcases listen with e | u'
  · exact (hbind.call (fun _ => rfl) (some e)).giveUp h
  have hlisten := (hbind.call (c := .listen sock (.ok u')) (fun _ => rfl) none).call
    (c := .stdout "mysocket:listening on socket and accepting...\nfinish with ^C\n")
    (fun _ => rfl) none
  rcases accept with e | cfd
  · exact (hlisten.call (fun _ => rfl) (some e)).giveUp h
  obtain ⟨hfresh, howns⟩ := hlisten.accept none (obliging_of_closeSocket h)
  exact ⟨hfresh, howns.closeSocket h⟩

/-- **`get_addr()` gains the connection.** -/
theorem gains_getAddr {a : SysSocket.Answers} {listenSock : ℕ}
    (h : Obliging fds (SysSocket.getAddr a listenSock p).2.calls) :
    Gains (openAfter fds p.calls) a.connection
      (openAfter fds (SysSocket.getAddr a listenSock p).2.calls) := by
  rcases a with ⟨e | ⟨sd, clientAddr⟩, inetNtop⟩
  · exact rfl
  · have hcalls : (SysSocket.getAddr ⟨.ok (sd, clientAddr), inetNtop⟩ listenSock p).2.calls =
        .inetNtop clientAddr.sinAddr (inetNtop clientAddr.sinAddr).isSome ::
          .accept listenSock (.ok sd) :: p.calls := by
      unfold SysSocket.getAddr
      dsimp only
      rcases inetNtop clientAddr.sinAddr with - | text
      · rfl
      · rfl
    rw [hcalls] at h ⊢
    exact ⟨h.2.1.1 sd rfl, rfl⟩

/-! ## Any number of calls -/

/-- A call of `f` in a process that began with `fds` open, where the assumption holds of
the calls it makes. -/
def calling {A : Type} (f : A → Process → Process) (fds : Finset ℕ) (p : Process) (a : A) :
    Option Process :=
  if Obliging fds (f a p).calls then some (f a p) else none

/-- If every call of `f` gains its connection, then the descriptors are the same again
exactly if there was none. -/
theorem eq_iff_of_gains {A : Type} {f : A → Process → Process} {connection : A → Option ℕ}
    (hf : ∀ a p, Obliging fds (f a p).calls →
      Gains (openAfter fds p.calls) (connection a) (openAfter fds (f a p).calls))
    {p q : Process} {as : List A} (h : Run (Fires (calling f fds)) p as q) :
    openAfter fds q.calls = openAfter fds p.calls ↔ ∀ a ∈ as, connection a = none := by
  refine (h.view_eq_iff (f := fun p => openAfter fds p.calls) fun p a q hstep => ?_).2
  unfold Fires calling at hstep
  by_cases hobl : Obliging fds (f a p).calls
  · cases (if_pos hobl).symm.trans hstep
    exact (hf a p hobl).le_and_eq_iff
  · cases (if_neg hobl).symm.trans hstep

/-- The calls `as` of `mysocket()`, one after the other. -/
def MyLib.Calls (fds : Finset ℕ) (p : Process) (as : List MyLib.Answers) (q : Process) : Prop :=
  Run (Fires (calling (fun a p => (MyLib.mysocket a p).2) fds)) p as q

/-- The calls `as` of `get_addr()`, each with the socket it is called with. -/
def SysSocket.Calls (fds : Finset ℕ) (p : Process) (as : List (ℕ × SysSocket.Answers))
    (q : Process) : Prop :=
  Run (Fires (calling (fun a p => (SysSocket.getAddr a.2 a.1 p).2) fds)) p as q

/-- **When no descriptor leaks**: after any number of calls of `mysocket()`, and likewise of
`get_addr()`, the open descriptors are those from before the first one exactly if none of
the calls has accepted a connection. -/
theorem noLeak_iff (fds : Finset ℕ) (p q : Process) :
    (∀ as, MyLib.Calls fds p as q →
      (openAfter fds q.calls = openAfter fds p.calls ↔ ∀ a ∈ as, a.connection = none)) ∧
    ∀ as, SysSocket.Calls fds p as q →
      (openAfter fds q.calls = openAfter fds p.calls ↔ ∀ a ∈ as, a.2.connection = none) := by
  constructor
  · intro as h
    exact eq_iff_of_gains (f := fun a p => (MyLib.mysocket a p).2) (fun a p => gains_mysocket) h
  · intro as h
    exact eq_iff_of_gains (f := fun (a : ℕ × SysSocket.Answers) p =>
      (SysSocket.getAddr a.2 a.1 p).2) (fun a p => gains_getAddr) h

/-- A call that accepts a connection on descriptor 4. -/
def MyLib.accepting : MyLib.Answers where
  socket := .ok 3
  inetPton := .ok (some ⟨192, 168, 24, 130⟩)
  bind := .ok ()
  listen := .ok ()
  accept := .ok 4
  close := .ok ()

/-- The address is in use. -/
def MyLib.refused : MyLib.Answers := { MyLib.accepting with bind := .error (.other 98) }

/-- A call that accepts a connection on descriptor 4 from 192.168.1.2:50000. -/
def SysSocket.accepting : SysSocket.Answers where
  accept := .ok (4, ⟨fun i => [2, 0, 195, 80, 192, 168, 1, 2].getD i 0⟩)
  inetNtop _ := some ['1', '9', '2', '.', '1', '6', '8', '.', '1', '.', '2']

/-- A call on a descriptor that is no socket. -/
def SysSocket.notSocket : SysSocket.Answers := ⟨.error (.other 88), fun _ => none⟩

/-- Calls that fail. -/
theorem noLeak_refused :
    let q := (MyLib.mysocket MyLib.refused (MyLib.mysocket MyLib.refused ⟨.other 0, []⟩).2).2
    let q' := (SysSocket.getAddr SysSocket.notSocket 0 ⟨.other 0, []⟩).2
    openAfter {0, 1, 2} q.calls = {0, 1, 2} ∧ openAfter {0, 1, 2} q'.calls = {0, 1, 2} := by
  have hmysocket : MyLib.Calls {0, 1, 2} ⟨.other 0, []⟩ [MyLib.refused, MyLib.refused] _ :=
    run_of_replay rfl
  have hgetAddr : SysSocket.Calls {0, 1, 2} ⟨.other 0, []⟩ [(0, SysSocket.notSocket)] _ :=
    run_of_replay rfl
  constructor
  · exact ((noLeak_iff {0, 1, 2} ⟨.other 0, []⟩ _).1 _ hmysocket).mpr (by decide)
  · exact ((noLeak_iff {0, 1, 2} ⟨.other 0, []⟩ _).2 _ hgetAddr).mpr (by decide)

/-- One connection each: descriptor 4 stays open. -/
theorem leak_accepting :
    (∃ q, MyLib.Calls {0, 1, 2} ⟨.other 0, []⟩ [MyLib.accepting] q ∧
      openAfter {0, 1, 2} q.calls = {0, 1, 2, 4} ∧ openAfter {0, 1, 2} q.calls ≠ {0, 1, 2}) ∧
    ∃ q, SysSocket.Calls {0, 1, 2, 3} ⟨.other 0, []⟩ [(3, SysSocket.accepting)] q ∧
      openAfter {0, 1, 2, 3} q.calls = {0, 1, 2, 3, 4} ∧
      openAfter {0, 1, 2, 3} q.calls ≠ {0, 1, 2, 3} :=
  ⟨⟨_, run_of_replay rfl, by decide, by decide⟩, _, run_of_replay rfl, by decide, by decide⟩

end SimpleTests.Sockets
