import SimpleTests.SocketCalls
import SimpleTests.FdSets
import SimpleTests.CStrings
import Mathlib.Data.UInt

/-! # The server that waits in `select()` for one connection

`mysocket()` of `sockets/use_select.cpp`; its copy in `mock/mp-sockets/socket_server.cpp`
has the same code, and this is the model of both.

`Answers` holds what the environment decides: the results of all the calls a run may
make.  The function makes them one after the other on a `Process`, and how often it
turns in the receive loop is the environment's matter too: `recv()` returns once for
each member of the list, and behind the last one the function still waits.

The buffer is printed as a C string.  If there is no NUL in it the stream gets unknown
bytes from behind the buffer; the model records the fact and goes on, since nothing is
written there.  `FD_SET` outside of an `fd_set` does write, and ends what is known.
-/
namespace SimpleTests.Sockets
open FdSet CStrings

/-- `sizeof(buffer)` of the receive loop. -/
def streamBufferSize : ℕ := 1024

/-- The bytes one `recv()` delivers into the buffer, none if the peer has closed the
connection. -/
structure Received where
  bytes : List UInt8
  length_le : bytes.length ≤ streamBufferSize
  deriving DecidableEq

/-- `char buffer[1024]` -/
structure StreamBuffer where
  bytes : List UInt8
  length_eq : bytes.length = streamBufferSize

namespace StreamBuffer

/-- `char buffer[1024]{}` -/
def zero : StreamBuffer := ⟨List.replicate streamBufferSize 0, List.length_replicate⟩

/-- `recv()` writes to the start of the buffer. -/
def store (buffer : StreamBuffer) (data : Received) : StreamBuffer where
  bytes := overwrite data.bytes buffer.bytes
  length_eq := by
    rw [length_overwrite, buffer.length_eq]
    exact max_eq_left data.length_le

end StreamBuffer

/-- One turn of the receive loop: the result of `recv()`, and the error of a `write()`
that failed when the buffer was printed. -/
structure Reception where
  recv : Except Errno Received
  print : Option Errno

/-- The results of the calls. -/
structure Answers where
  /-- The result is 1 with the address, 0 without it. -/
  inetPton : Except Errno (Option InAddr)
  socket : Except Errno ℕ
  bind : Except Errno Unit
  listen : Except Errno Unit
  /-- The error of a `write()` that failed when the greeting was printed. -/
  greeting : Option Errno
  accept : Except Errno ℕ
  select : Except Errno ℕ
  receptions : List Reception
  closeConn : Except Errno Unit
  closeSock : Except Errno Unit

/-- How far a run gets. -/
inductive Outcome
  | returned (status : Status)
  /-- It waits in `recv()`. -/
  | waiting
  /-- It has accessed memory outside of an `fd_set`. -/
  | undefined
  deriving DecidableEq

/-- An error exit: the message, and the descriptors that are closed. -/
def giveUp (text : String) (socks : List (ℕ × Except Errno Unit)) (p : Process) :
    Outcome × Process :=
  (.returned .failure, socks.foldl (fun p s => (closeSocket s.1 s.2 p).2) (p.stderr text))

/-- The block of the receive loop behind `if (numBytes <= 0)`. -/
def leave (a : Answers) (sock connFd : ℕ) (p : Process) : Outcome × Process :=
  if p.errno = .eintr then
    -- a signal was caught
    let p := (closeSocket connFd a.closeConn p).2
    let r := closeSocket sock a.closeSock p
    (.returned r.1, r.2)
  else
    giveUp "mysocket: error receiving data\n" [(connFd, a.closeConn), (sock, a.closeSock)] p

/-- `recv(conn_fd, buffer, sizeof(buffer), 0)` -/
def Process.recv (p : Process) (connFd : ℕ) (r : Except Errno Received) : Process :=
  p.call (.recv connFd (r.map Received.bytes) ((failed r).getD p.errno)) (failed r)

/-- The receive loop. -/
def receive (a : Answers) (sock connFd : ℕ) :
    List Reception → StreamBuffer → Process → Outcome × Process
  | [], _, p => (.waiting, p)
  | ⟨.error e, _⟩ :: _, _, p => leave a sock connFd (p.recv connFd (.error e))
  | ⟨.ok data, write⟩ :: rest, buffer, p =>
    let p := p.recv connFd (.ok data)
    if data.bytes.length ≤ 0 then leave a sock connFd p
    else
      let buffer := buffer.store data
      receive a sock connFd rest buffer (p.call (.print (cString buffer.bytes)) write)

/-- `mysocket()` -/
def mysocket (a : Answers) (port : ℤ) (p : Process) : Outcome × Process :=
  let sinPort := htons (.ofInt port)
  let p := p.call (.inetPton a.inetPton) (failed a.inetPton)
  match a.inetPton with
  | .error _ | .ok none => giveUp "mysocket: error inet_pton\n" [] p
  | .ok (some sinAddr) =>
  let p := p.call (.socket a.socket) (failed a.socket)
  match a.socket with
  | .error _ => giveUp "mysocket: error getting socket\n" [] p
  | .ok sock =>
  let p := p.call (.bind sock ⟨sinPort, sinAddr⟩ a.bind) (failed a.bind)
  match a.bind with
  | .error _ => giveUp "mysocket: error bind to socket\n" [(sock, a.closeSock)] p
  | .ok _ =>
  let p := p.call (.listen sock a.listen) (failed a.listen)
  match a.listen with
  | .error _ => giveUp "mysocket: error listen on socket\n" [(sock, a.closeSock)] p
  | .ok _ =>
  let greeting := "mysocket:listening on socket and accepting... (finish with ^C)\n"
  let p := p.call (.stdout greeting) a.greeting
  let p := p.call (.accept sock a.accept) (failed a.accept)
  match a.accept with
  | .error _ => giveUp "mysocket: error accepting on socket\n" [(sock, a.closeSock)] p
  | .ok connFd =>
  match fdSet connFd fdZero with
  | none => (.undefined, p)
  | some _ =>
  -- `conn_fd + 1` must not be above `FD_SETSIZE`
  if fdSetSize < connFd + 1 then (.undefined, p)
  else
  let p := p.call (.select (connFd + 1) a.select) (failed a.select)
  match a.select with
  | .error _ | .ok 0 =>
    giveUp "mysocket: error selecting incoming connection on a socket\n"
      [(connFd, a.closeConn), (sock, a.closeSock)] p
  | .ok (_ + 1) => receive a sock connFd a.receptions .zero p

/-! ## Leaving -/

/-- The closing part of an error exit. -/
theorem closes_foldl (socks : List (ℕ × Except Errno Unit)) (p : Process) :
    Closes p (socks.foldl (fun p s => (closeSocket s.1 s.2 p).2) p) := by
  induction socks generalizing p with
  | nil => exact .refl p
  | cons s socks ih => exact (closes_closeSocket s.1 s.2 p).trans (ih _)

theorem closed_foldl (socks : List (ℕ × Except Errno Unit)) (p : Process) :
    closed (socks.foldl (fun p s => (closeSocket s.1 s.2 p).2) p).calls =
      (socks.map Prod.fst).reverse ++ closed p.calls := by
  induction socks generalizing p with
  | nil => rfl
  | cons s socks ih =>
    rw [List.foldl_cons, ih, closed_closeSocket, List.map_cons, List.reverse_cons,
      List.append_assoc]
    rfl

theorem closes_giveUp (text : String) (socks : List (ℕ × Except Errno Unit)) (p : Process) :
    Closes p (giveUp text socks p).2 := (closes_stderr p text).trans (closes_foldl socks _)

/-- The descriptors closed at an error exit. -/
theorem closed_giveUp (text : String) (socks : List (ℕ × Except Errno Unit)) (p : Process) :
    closed (giveUp text socks p).2.calls = (socks.map Prod.fst).reverse ++ closed p.calls :=
  closed_foldl socks _

/-- Behind the receive loop both descriptors are closed, the connection first. -/
theorem closes_leave (a : Answers) (sock connFd : ℕ) (p : Process) :
    Closes p (leave a sock connFd p).2 := by
  unfold leave
  by_cases he : p.errno = .eintr
  · rw [if_pos he]
    exact (closes_closeSocket connFd a.closeConn p).trans (closes_closeSocket sock a.closeSock _)
  · rw [if_neg he]
    exact closes_giveUp _ _ p

theorem closed_leave (a : Answers) (sock connFd : ℕ) (p : Process) :
    closed (leave a sock connFd p).2.calls = sock :: connFd :: closed p.calls := by
  unfold leave
  by_cases he : p.errno = .eintr
  · rw [if_pos he]
    show closed (closeSocket sock a.closeSock _).2.calls = _
    rw [closed_closeSocket, closed_closeSocket]
  · rw [if_neg he]
    exact closed_giveUp _ [(connFd, a.closeConn), (sock, a.closeSock)] p

/-- The status a run has that leaves the receive loop with this value of `errno`. -/
def Answers.status (a : Answers) (errno : Errno) : Status :=
  if errno = .eintr ∧ a.closeSock = .ok () then .success else .failure

theorem outcome_leave (a : Answers) (sock connFd : ℕ) (p : Process) :
    (leave a sock connFd p).1 = .returned (a.status p.errno) := by
  unfold leave Answers.status
  by_cases he : p.errno = .eintr
  · rw [if_pos he]
    show Outcome.returned (closeSocket sock a.closeSock _).1 = _
    rcases hr : a.closeSock with e | u
    · rw [if_neg (by simp)]
      rfl
    · rw [if_pos ⟨he, rfl⟩]
      rfl
  · rw [if_neg he, if_neg fun h => he h.1]
    rfl

theorem status_eq_success {a : Answers} {e : Errno} :
    a.status e = .success ↔ e = .eintr ∧ a.closeSock = .ok () := by
  unfold Answers.status
  by_cases h : e = .eintr ∧ a.closeSock = .ok ()
  · exact iff_of_true (if_pos h) h
  · rw [if_neg h]
    exact iff_of_false Status.noConfusion h

/-! ## The exits -/

namespace Process
variable (p : Process) (a : Answers) (port : ℤ) (addr : InAddr) (sock connFd : ℕ)

/-- `socket()` has returned a descriptor. -/
def socketed : Process := (p.call (.inetPton (.ok (some addr))) none).call (.socket (.ok sock)) none

/-- `bind()` has succeeded. -/
def bound : Process :=
  (p.socketed addr sock).call (.bind sock ⟨htons (.ofInt port), addr⟩ (.ok ())) none

/-- `listen()` has succeeded, and the greeting is printed. -/
def listening : Process :=
  ((p.bound port addr sock).call (.listen sock (.ok ())) none).call
    (.stdout "mysocket:listening on socket and accepting... (finish with ^C)\n") a.greeting

/-- `accept()` has returned a connection. -/
def accepted : Process := (p.listening a port addr sock).call (.accept sock (.ok connFd)) none

/-- `select()` has reported that there is something to receive. -/
def selected (n : ℕ) : Process :=
  (p.accepted a port addr sock connFd).call (.select (connFd + 1) (.ok (n + 1))) none

end Process

/-- The first two calls succeed. -/
structure Answers.Socketed (a : Answers) (addr : InAddr) (sock : ℕ) : Prop where
  inetPton : a.inetPton = .ok (some addr)
  socket : a.socket = .ok sock

/-- All calls before `accept()` succeed. -/
structure Answers.Listens (a : Answers) (addr : InAddr) (sock : ℕ) : Prop
    extends a.Socketed addr sock where
  bind : a.bind = .ok ()
  listen : a.listen = .ok ()

/-- A connection is accepted on `connFd`. -/
structure Answers.Accepts (a : Answers) (addr : InAddr) (sock connFd : ℕ) : Prop
    extends a.Listens addr sock where
  accept : a.accept = .ok connFd

/-- The receive loop is reached. -/
structure Answers.Connects (a : Answers) (addr : InAddr) (sock connFd n : ℕ) : Prop
    extends a.Accepts addr sock connFd where
  inRange : connFd < fdSetSize
  select : a.select = .ok (n + 1)

/-- The ways through `mysocket()`.  The answers alone decide which one is taken. -/
inductive Exit (a : Answers) (port : ℤ) : (Process → Outcome × Process) → Prop
  | inetPton (r : Except Errno (Option InAddr)) (hr : a.inetPton = r)
      (h : ∀ addr, r ≠ .ok (some addr)) :
      Exit a port fun p => giveUp "mysocket: error inet_pton\n" []
        (p.call (.inetPton r) (failed r))
  | socket (addr : InAddr) (e : Errno) (hi : a.inetPton = .ok (some addr))
      (h : a.socket = .error e) :
      Exit a port fun p => giveUp "mysocket: error getting socket\n" []
        ((p.call (.inetPton (.ok (some addr))) none).call (.socket (.error e)) (some e))
  | bind (addr : InAddr) (sock : ℕ) (e : Errno) (hs : a.Socketed addr sock)
      (h : a.bind = .error e) :
      Exit a port fun p => giveUp "mysocket: error bind to socket\n" [(sock, a.closeSock)]
        ((p.socketed addr sock).call (.bind sock ⟨htons (.ofInt port), addr⟩ (.error e)) (some e))
  | listen (addr : InAddr) (sock : ℕ) (e : Errno) (hs : a.Socketed addr sock)
      (hb : a.bind = .ok ()) (h : a.listen = .error e) :
      Exit a port fun p => giveUp "mysocket: error listen on socket\n" [(sock, a.closeSock)]
        ((p.bound port addr sock).call (.listen sock (.error e)) (some e))
  | accept (addr : InAddr) (sock : ℕ) (e : Errno) (hl : a.Listens addr sock)
      (h : a.accept = .error e) :
      Exit a port fun p => giveUp "mysocket: error accepting on socket\n" [(sock, a.closeSock)]
        ((p.listening a port addr sock).call (.accept sock (.error e)) (some e))
  | undefined (addr : InAddr) (sock connFd : ℕ) (ha : a.Accepts addr sock connFd)
      (h : fdSetSize ≤ connFd) :
      Exit a port fun p => (.undefined, p.accepted a port addr sock connFd)
  | select (addr : InAddr) (sock connFd : ℕ) (r : Except Errno ℕ)
      (ha : a.Accepts addr sock connFd) (hlt : connFd < fdSetSize) (hr : a.select = r)
      (h : ∀ n, r ≠ .ok (n + 1)) :
      Exit a port fun p =>
        giveUp "mysocket: error selecting incoming connection on a socket\n"
          [(connFd, a.closeConn), (sock, a.closeSock)]
          ((p.accepted a port addr sock connFd).call (.select (connFd + 1) r) (failed r))
  | loop (addr : InAddr) (sock connFd n : ℕ) (hc : a.Connects addr sock connFd n) :
      Exit a port fun p =>
        receive a sock connFd a.receptions .zero (p.selected a port addr sock connFd n)

/-- **There is no other way through `mysocket()`.** -/
theorem exit_mysocket (a : Answers) (port : ℤ) : Exit a port (mysocket a port) := by
  show Exit a port fun p => mysocket a port p
  unfold mysocket
  rcases hi : a.inetPton with e | _ | addr
  · exact .inetPton _ hi (by simp)
  · exact .inetPton _ hi (by simp)
  rcases hs : a.socket with e | sock
  · exact .socket addr e hi hs
  rcases hb : a.bind with e | _
  · exact .bind addr sock e ⟨hi, hs⟩ hb
  rcases hl : a.listen with e | _
  · exact .listen addr sock e ⟨hi, hs⟩ hb hl
  rcases ha : a.accept with e | connFd
  · exact .accept addr sock e ⟨⟨hi, hs⟩, hb, hl⟩ ha
  have haccepts : a.Accepts addr sock connFd := ⟨⟨⟨hi, hs⟩, hb, hl⟩, ha⟩
  by_cases hlt : connFd < fdSetSize
  · have hset : ∃ set, fdSet connFd fdZero = some set := ⟨_, dif_pos hlt⟩
    obtain ⟨set, hset⟩ := hset
    have hrange : ¬ fdSetSize < connFd + 1 := by omega
    simp only [hset, if_neg hrange]
    rcases hsel : a.select with e | _ | n
    · exact .select addr sock connFd _ haccepts hlt hsel (by simp)
    · exact .select addr sock connFd _ haccepts hlt hsel (by simp)
    · exact .loop addr sock connFd n ⟨haccepts, hlt, hsel⟩
  · have hnone : fdSet connFd fdZero = none := dif_neg hlt
    simp only [hnone]
    exact .undefined addr sock connFd haccepts (by omega)

/-- A way through `mysocket()` that does not get to the receive loop. -/
structure Early (a : Answers) (run : Process → Outcome × Process) : Prop where
  not_connects : ∀ addr sock connFd n, ¬ a.Connects addr sock connFd n
  /-- The outcome does not depend on the process. -/
  outcome : ∀ p p', (run p).1 = (run p').1
  quiet : ∀ p, Makes SysCall.Quiet p (run p).2

theorem quiet_socketed (p : Process) (addr : InAddr) (sock : ℕ) :
    Makes SysCall.Quiet p (p.socketed addr sock) :=
  ((Makes.refl p).call (by trivial) _).call (by trivial) _

theorem quiet_listening (p : Process) (a : Answers) (port : ℤ) (addr : InAddr) (sock : ℕ) :
    Makes SysCall.Quiet p (p.listening a port addr sock) :=
  (((quiet_socketed p addr sock).call (by trivial) _).call (by trivial) _).call (by trivial) _

theorem early_giveUp {a : Answers} {text : String} {socks : List (ℕ × Except Errno Unit)}
    {before : Process → Process} (hno : ∀ addr sock connFd n, ¬ a.Connects addr sock connFd n)
    (hquiet : ∀ p, Makes SysCall.Quiet p (before p)) :
    Early a fun p => giveUp text socks (before p) :=
  ⟨hno, fun _ _ => rfl, fun p => (hquiet p).trans (closes_giveUp text socks _).quiet⟩

/-- **Every run of `mysocket()` ends before the receive loop, or is a run of it.** -/
theorem early_or_loop (a : Answers) (port : ℤ) :
    Early a (mysocket a port) ∨ ∃ addr sock connFd n, a.Connects addr sock connFd n ∧
      ∀ p, mysocket a port p =
        receive a sock connFd a.receptions .zero (p.selected a port addr sock connFd n) := by
  have hexit := exit_mysocket a port
  generalize mysocket a port = run at hexit
  cases hexit with
  | inetPton r hr h =>
    refine Or.inl (early_giveUp (fun addr _ _ _ hc => ?_) fun p => (Makes.refl p).call (by trivial) _)
    exact h addr (hr.symm.trans hc.inetPton)
  | socket _ _ _ h =>
    refine Or.inl (early_giveUp (fun _ _ _ _ hc => ?_) fun p =>
      ((Makes.refl p).call (by trivial) _).call (by trivial) _)
    exact nomatch h.symm.trans hc.socket
  | bind addr sock _ _ h =>
    refine Or.inl (early_giveUp (fun _ _ _ _ hc => ?_) fun p =>
      (quiet_socketed p addr sock).call (by trivial) _)
    exact nomatch h.symm.trans hc.bind
  | listen addr sock _ _ _ h =>
    refine Or.inl (early_giveUp (fun _ _ _ _ hc => ?_) fun p =>
      ((quiet_socketed p addr sock).call (by trivial) _).call (by trivial) _)
    exact nomatch h.symm.trans hc.listen
  | accept addr sock _ _ h =>
    refine Or.inl (early_giveUp (fun _ _ _ _ hc => ?_) fun p =>
      (quiet_listening p a port addr sock).call (by trivial) _)
    exact nomatch h.symm.trans hc.accept
  | undefined addr sock connFd ha h =>
    refine Or.inl ⟨fun _ _ connFd' _ hc => ?_, fun _ _ => rfl, fun p =>
      (quiet_listening p a port addr sock).call (by trivial) _⟩
    have heq : connFd = connFd' := Except.ok.inj (ha.accept.symm.trans hc.accept)
    have hlt := hc.inRange
    omega
  | select addr sock _ _ _ _ hr h =>
    refine Or.inl (early_giveUp (fun _ _ _ n hc => ?_) fun p =>
      ((quiet_listening p a port addr sock).call (by trivial) _).call (by trivial) _)
    exact h n (hr.symm.trans hc.select)
  | loop addr sock connFd n hc => exact Or.inr ⟨addr, sock, connFd, n, hc, fun p => rfl⟩

end SimpleTests.Sockets
