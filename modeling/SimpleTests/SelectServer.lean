import SimpleTests.TransitionRuns
import SimpleTests.FdSets
import SimpleTests.SocketCalls
import Mathlib.Logic.Function.Basic

/-! # The `select()` server

`main()` of `sockets/select_and_accept_server.cpp` as a machine.  One step is one
system call with the code behind it up to the next call, or one turn of a loop
that makes no call (the scan of the working set and the final sweep).  The label
of a step is what the environment decides: the result of the call.  So the
server's part is the function `step`, and every behaviour of kernel and clients is
a list of labels.

`Server` holds the variables of `main()` under their names; `rc` and `errno` are the
result a step is given.  Its last four fields belong to the kernel.  Each
acquisition of a descriptor, by `socket()` or `accept()`, has a number, so that two
connections under one descriptor number are told apart, and `calls` is the record
of the calls with what the descriptor stood for when the call was made.

`Kernel` is what the manuals say of the results: `socket()` and `accept()` return
descriptors that are not open, `select()` clears bits only and reports nothing no
sooner than the timeout, and `send()` takes no more than it is given.

`send()` has a third result.  On a connection that the client has reset it raises `SIGPIPE`,
which the program neither blocks nor handles, and the process ends before the call returns
(`killed`).  Where the process was started with `SIGPIPE` ignored, the same call returns
`EPIPE` and is an error like any other.
-/
namespace SimpleTests.Sockets
open Transition FdSet

/-- `struct timeval` -/
structure Timeval where
  tvSec : ℕ
  tvUsec : ℕ
  deriving DecidableEq

namespace Timeval

/-- The time in microseconds. -/
def micros (t : Timeval) : ℕ := t.tvSec * 1000000 + t.tvUsec

/-- The normalised `struct timeval` of a time in microseconds. -/
def ofMicros (n : ℕ) : Timeval := ⟨n / 1000000, n % 1000000⟩

@[simp] theorem micros_ofMicros (n : ℕ) : (ofMicros n).micros = n :=
  Nat.div_add_mod' n 1000000

end Timeval

/-- `sizeof(buffer)` -/
def bufferSize : ℕ := 80

/-- `EPIPE` -/
def epipe : Errno := .other 32

/-- What one `recv()` into the buffer delivers; no bytes if the peer has closed the
connection. -/
structure Chunk where
  bytes : List UInt8
  length_le : bytes.length ≤ bufferSize
  deriving DecidableEq

/-- An open descriptor: the number of its acquisition, and whether `ioctl(FIONBIO)`
succeeded on it since then. -/
structure Descr where
  acq : ℕ
  nonblocking : Bool
  deriving DecidableEq

/-- The record of one `select()` call: the timeout it was given, how long it slept,
when it returned, and what it returned. -/
structure SelectCall where
  timeout : ℕ
  slept : ℕ
  returned : ℕ
  result : Except Errno FdSet

/-- The record of one call.  A descriptor is given as what it stood for when the
call was made, `none` if it was not open. -/
inductive Call
  | select (c : SelectCall)
  /-- `printf("  Listening socket is readable\n")` or `printf("  Descriptor %d is
  readable\n", i)` -/
  | readable (sd : ℕ) (d : Option Descr)
  | accept (d : Option Descr)
  | recv (d : Option Descr) (r : Except Errno Chunk)
  | send (d : Option Descr) (data : List UInt8) (r : Except Errno ℕ)
  | close (d : Option Descr)

/-- The places in `main()` between two steps. -/
inductive Pc
  /-- before `socket()` -/
  | socket
  /-- before `ioctl(listen_sd, FIONBIO, ..)` -/
  | ioctl
  /-- before `bind()` -/
  | bind
  /-- before `listen()` -/
  | listen
  /-- at the top of the outer loop -/
  | select
  /-- at the test of the `for` loop over the descriptors -/
  | scan
  /-- before `accept()` -/
  | accept
  /-- before `ioctl(new_sd, FIONBIO, ..)` -/
  | acceptIoctl
  /-- before `recv()` -/
  | recv
  /-- before `send()` -/
  | send
  /-- behind the receive loop, before `if (close_conn)` -/
  | closeConn
  /-- at the test of the final `for` loop -/
  | sweep
  /-- behind the end of `main()` -/
  | finished
  /-- behind `exit(-1)` -/
  | exited
  /-- ended by `SIGPIPE` -/
  | killed
  /-- behind an access outside of an `fd_set` -/
  | undefined
  deriving DecidableEq

/-- The state of the program and of its descriptors. -/
structure Server where
  pc : Pc
  listenSd : ℕ
  maxSd : ℕ
  newSd : ℕ
  descReady : ℕ
  endServer : Bool
  closeConn : Bool
  i : ℕ
  len : ℕ
  buffer : List UInt8
  masterSet : FdSet
  workingSet : FdSet
  timeout : Timeval
  /-- The open descriptors that the program has obtained. -/
  fds : ℕ → Option Descr
  /-- How many descriptors it has obtained so far. -/
  acquired : ℕ
  /-- The time of the last return from `select()`, in microseconds. -/
  now : ℕ
  /-- The calls made so far, most recent first. -/
  calls : List Call

/-- The results of system calls, and the turns of loops without calls. -/
inductive Event
  | socket (r : Except Errno ℕ)
  | ioctl (r : Except Errno Unit)
  | bind (r : Except Errno Unit)
  | listen (r : Except Errno Unit)
  /-- `select()` is called `gap` microseconds behind its last return. -/
  | select (gap slept : ℕ) (r : Except Errno FdSet)
  | scan
  | accept (r : Except Errno ℕ)
  | acceptIoctl (r : Except Errno Unit)
  | recv (r : Except Errno Chunk)
  | send (r : Except Errno ℕ)
  /-- `send()` raises `SIGPIPE` -/
  | sigpipe
  | closeConn
  | sweep

namespace Server
variable (s : Server)

/-! ## Effects on the descriptors -/

/-- `close(sd)` -/
def close (sd : ℕ) : Server :=
  { s with fds := Function.update s.fds sd none, calls := .close (s.fds sd) :: s.calls }

/-- `socket()` or `accept()` returns `sd`. -/
def acquire (sd : ℕ) : Server :=
  { s with fds := Function.update s.fds sd (some ⟨s.acquired, false⟩)
           acquired := s.acquired + 1 }

/-- `ioctl(sd, FIONBIO, ..)` succeeds. -/
def setNonblocking (sd : ℕ) : Server :=
  { s with fds := Function.update s.fds sd ((s.fds sd).map fun d => { d with nonblocking := true }) }

/-- A call is recorded. -/
def note (c : Call) : Server := { s with calls := c :: s.calls }

/-! ## The code, from one call to the next -/

/-- An error exit of the setup. -/
def fail : Server := { s.close s.listenSd with pc := .exited }

def onSocket : Except Errno ℕ → Server
  | .error _ => { s with pc := .exited }
  | .ok sd => { s.acquire sd with listenSd := sd, pc := .ioctl }

def onIoctl : Except Errno Unit → Server
  | .error _ => s.fail
  | .ok _ => { s.setNonblocking s.listenSd with pc := .bind }

def onBind : Except Errno Unit → Server
  | .error _ => s.fail
  | .ok _ => { s with pc := .listen }

def onListen : Except Errno Unit → Server
  | .error _ => s.fail
  | .ok _ =>
    match fdSet s.listenSd fdZero with
    | none => { s with pc := .undefined }
    | some master =>
      { s with masterSet := master, maxSd := s.listenSd, timeout := ⟨3 * 60, 0⟩, pc := .select }

/-- `select()` has been called with a copy of `master_set` and has overwritten the
timeout with the time not slept. -/
def selected (gap slept : ℕ) (r : Except Errno FdSet) : Server :=
  { s.note (.select ⟨s.timeout.micros, slept, s.now + gap + slept, r⟩) with
    workingSet := s.masterSet
    timeout := .ofMicros (s.timeout.micros - slept)
    now := s.now + gap + slept }

def onSelect (gap slept : ℕ) (r : Except Errno FdSet) : Server :=
  -- `max_sd + 1` must not be above `FD_SETSIZE`
  if fdSetSize < s.maxSd + 1 then { s with pc := .undefined }
  else
    let s := s.selected gap slept r
    match r with
    | .error _ => { s with pc := .sweep, i := 0 }
    | .ok ready =>
      -- `rc == 0`: timed out
      if ready.bits.card = 0 then { s with workingSet := ready, pc := .sweep, i := 0 }
      else { s with workingSet := ready, descReady := ready.bits.card, pc := .scan, i := 0 }

def onScan : Server :=
  if s.i ≤ s.maxSd ∧ 0 < s.descReady then
    match fdIsset s.i s.workingSet with
    | none => { s with pc := .undefined }
    | some false => { s with i := s.i + 1, pc := .scan }
    | some true =>
      let s := { s.note (.readable s.i (s.fds s.i)) with descReady := s.descReady - 1 }
      if s.i = s.listenSd then { s with pc := .accept }
      else { s with closeConn := false, pc := .recv }
  else if s.endServer then { s with pc := .sweep, i := 0 }
  else { s with pc := .select }

def onAccept (r : Except Errno ℕ) : Server :=
  let s := s.note (.accept (s.fds s.listenSd))
  match r with
  -- `EWOULDBLOCK`: all of the queue is accepted; other failures end the server
  | .error e =>
    { s with endServer := if e ≠ .ewouldblock then true else s.endServer
             i := s.i + 1
             pc := .scan }
  | .ok sd => { s.acquire sd with newSd := sd, pc := .acceptIoctl }

def onAcceptIoctl : Except Errno Unit → Server
  -- only `listen_sd` is closed, then `exit(-1)`
  | .error _ => s.fail
  | .ok _ =>
    let s := s.setNonblocking s.newSd
    match fdSet s.newSd s.masterSet with
    | none => { s with pc := .undefined }
    | some master =>
      { s with masterSet := master
               maxSd := if s.newSd > s.maxSd then s.newSd else s.maxSd
               pc := .accept }

def onRecv (r : Except Errno Chunk) : Server :=
  let s := s.note (.recv (s.fds s.i) r)
  match r with
  | .error e =>
    { s with closeConn := if e ≠ .ewouldblock then true else s.closeConn, pc := .closeConn }
  | .ok data =>
    if data.bytes.length = 0 then { s with closeConn := true, pc := .closeConn }
    else
      { s with buffer := data.bytes ++ s.buffer.drop data.bytes.length
               len := data.bytes.length
               pc := .send }

def onSend (r : Except Errno ℕ) : Server :=
  let s := s.note (.send (s.fds s.i) (s.buffer.take s.len) r)
  match r with
  | .error _ => { s with closeConn := true, pc := .closeConn }
  -- `rc` is compared with 0 only, however much of the data was taken
  | .ok _ => { s with pc := .recv }

/-- The call fails with `EPIPE`, and the default action of `SIGPIPE` ends the process. -/
def onSigpipe : Server :=
  { s.note (.send (s.fds s.i) (s.buffer.take s.len) (.error epipe)) with pc := .killed }

def onCloseConn : Server :=
  if s.closeConn then
    let s := s.close s.i
    match fdClr s.i s.masterSet with
    | none => { s with pc := .undefined }
    | some master =>
      if s.i = s.maxSd then
        -- `while (FD_ISSET(max_sd, &master_set) == FALSE) max_sd -= 1`
        match master.lower s.maxSd with
        | none => { s with pc := .undefined }
        | some sd => { s with masterSet := master, maxSd := sd, i := s.i + 1, pc := .scan }
      else { s with masterSet := master, i := s.i + 1, pc := .scan }
  else { s with i := s.i + 1, pc := .scan }

def onSweep : Server :=
  if s.i ≤ s.maxSd then
    match fdIsset s.i s.masterSet with
    | none => { s with pc := .undefined }
    | some false => { s with i := s.i + 1, pc := .sweep }
    | some true => { s.close s.i with i := s.i + 1, pc := .sweep }
  else { s with pc := .finished }

end Server

/-- Where in `main()` an event belongs. -/
def Event.pc : Event → Pc
  | .socket _ => .socket
  | .ioctl _ => .ioctl
  | .bind _ => .bind
  | .listen _ => .listen
  | .select .. => .select
  | .scan => .scan
  | .accept _ => .accept
  | .acceptIoctl _ => .acceptIoctl
  | .recv _ => .recv
  | .send _ | .sigpipe => .send
  | .closeConn => .closeConn
  | .sweep => .sweep

/-- What the server does with an event. -/
def Server.react (s : Server) : Event → Server
  | .socket r => s.onSocket r
  | .ioctl r => s.onIoctl r
  | .bind r => s.onBind r
  | .listen r => s.onListen r
  | .select gap slept r => s.onSelect gap slept r
  | .scan => s.onScan
  | .accept r => s.onAccept r
  | .acceptIoctl r => s.onAcceptIoctl r
  | .recv r => s.onRecv r
  | .send r => s.onSend r
  | .sigpipe => s.onSigpipe
  | .closeConn => s.onCloseConn
  | .sweep => s.onSweep

/-- One step of the server. -/
def Server.step (s : Server) (e : Event) : Option Server :=
  if s.pc = e.pc then some (s.react e) else none

/-- The documented results of the calls. -/
def Kernel (s : Server) : Event → Prop
  | .socket (.ok sd) | .accept (.ok sd) => s.fds sd = none
  | .select _ slept (.ok ready) =>
    (∀ sd ∈ ready, sd ∈ s.masterSet) ∧ (ready.bits.card = 0 → s.timeout.micros ≤ slept)
  | .send (.ok n) => n ≤ s.len
  | _ => True

/-- The server starts with no descriptors; variables without an initialiser have any
value. -/
structure Initial (s : Server) : Prop where
  pc : s.pc = .socket
  endServer : s.endServer = false
  fds : ∀ sd, s.fds sd = none
  acquired : s.acquired = 0
  calls : s.calls = []

/-- The steps of the server on a kernel that keeps to its manual. -/
abbrev Steps : Server → Event → Server → Prop := Guarded (Fires Server.step) Kernel

theorem steps_iff {s s' : Server} {e : Event} :
    Steps s e s' ↔ s.pc = e.pc ∧ s' = s.react e ∧ Kernel s e := by
  unfold Steps Guarded Fires Server.step
  by_cases h : s.pc = e.pc
  · simp [h, eq_comm]
  · simp [h]

/-! ## What one step can do -/

/-- All the steps of the server, with the branch each of them takes.  `undefined`
branches are those that access memory outside of an `fd_set`. -/
inductive Turn (s : Server) : Event → Server → Prop
  | socketError (e : Errno) : Turn s (.socket (.error e)) { s with pc := .exited }
  | socket (sd : ℕ) : Turn s (.socket (.ok sd)) { s.acquire sd with listenSd := sd, pc := .ioctl }
  | ioctlError (e : Errno) : Turn s (.ioctl (.error e)) s.fail
  | ioctl (u : Unit) : Turn s (.ioctl (.ok u)) { s.setNonblocking s.listenSd with pc := .bind }
  | bindError (e : Errno) : Turn s (.bind (.error e)) s.fail
  | bind (u : Unit) : Turn s (.bind (.ok u)) { s with pc := .listen }
  | listenError (e : Errno) : Turn s (.listen (.error e)) s.fail
  | listenUndefined (u : Unit) (hm : fdSet s.listenSd fdZero = none) :
      Turn s (.listen (.ok u)) { s with pc := .undefined }
  | listen (u : Unit) (master : FdSet) (hm : fdSet s.listenSd fdZero = some master) :
      Turn s (.listen (.ok u)) { s with
        masterSet := master, maxSd := s.listenSd, timeout := ⟨3 * 60, 0⟩, pc := .select }
  | selectUndefined (gap slept : ℕ) (r : Except Errno FdSet) (hrange : fdSetSize < s.maxSd + 1) :
      Turn s (.select gap slept r) { s with pc := .undefined }
  | selectError (gap slept : ℕ) (e : Errno) :
      Turn s (.select gap slept (.error e))
        { s.selected gap slept (.error e) with pc := .sweep, i := 0 }
  | selectTimeout (gap slept : ℕ) (ready : FdSet) (hr : ready.bits.card = 0) :
      Turn s (.select gap slept (.ok ready))
        { s.selected gap slept (.ok ready) with workingSet := ready, pc := .sweep, i := 0 }
  | selectReady (gap slept : ℕ) (ready : FdSet) (hr : ready.bits.card ≠ 0) :
      Turn s (.select gap slept (.ok ready)) { s.selected gap slept (.ok ready) with
        workingSet := ready, descReady := ready.bits.card, pc := .scan, i := 0 }
  | scanUndefined (hcond : s.i ≤ s.maxSd ∧ 0 < s.descReady)
      (hi : fdIsset s.i s.workingSet = none) : Turn s .scan { s with pc := .undefined }
  | scanSkip (hcond : s.i ≤ s.maxSd ∧ 0 < s.descReady) (hi : s.i ∉ s.workingSet) :
      Turn s .scan { s with i := s.i + 1, pc := .scan }
  | scanListen (hcond : s.i ≤ s.maxSd ∧ 0 < s.descReady) (hi : s.i ∈ s.workingSet)
      (hl : s.i = s.listenSd) : Turn s .scan { s.note (.readable s.i (s.fds s.i)) with
        descReady := s.descReady - 1, pc := .accept }
  | scanConn (hcond : s.i ≤ s.maxSd ∧ 0 < s.descReady) (hi : s.i ∈ s.workingSet)
      (hl : s.i ≠ s.listenSd) : Turn s .scan { s.note (.readable s.i (s.fds s.i)) with
        descReady := s.descReady - 1, closeConn := false, pc := .recv }
  | scanEnd (hdone : ¬ (s.i ≤ s.maxSd ∧ 0 < s.descReady)) (he : s.endServer = true) :
      Turn s .scan { s with pc := .sweep, i := 0 }
  | scanAgain (hdone : ¬ (s.i ≤ s.maxSd ∧ 0 < s.descReady)) (he : s.endServer = false) :
      Turn s .scan { s with pc := .select }
  | acceptError (e : Errno) : Turn s (.accept (.error e))
      { s.note (.accept (s.fds s.listenSd)) with
        endServer := if e ≠ .ewouldblock then true else s.endServer, i := s.i + 1, pc := .scan }
  | accept (sd : ℕ) : Turn s (.accept (.ok sd))
      { (s.note (.accept (s.fds s.listenSd))).acquire sd with newSd := sd, pc := .acceptIoctl }
  | acceptIoctlError (e : Errno) : Turn s (.acceptIoctl (.error e)) s.fail
  | acceptUndefined (u : Unit) (hm : fdSet s.newSd s.masterSet = none) :
      Turn s (.acceptIoctl (.ok u)) { s.setNonblocking s.newSd with pc := .undefined }
  | acceptAdd (u : Unit) (master : FdSet) (hm : fdSet s.newSd s.masterSet = some master) :
      Turn s (.acceptIoctl (.ok u)) { s.setNonblocking s.newSd with
        masterSet := master, maxSd := if s.newSd > s.maxSd then s.newSd else s.maxSd
        pc := .accept }
  | recvError (e : Errno) : Turn s (.recv (.error e))
      { s.note (.recv (s.fds s.i) (.error e)) with
        closeConn := if e ≠ .ewouldblock then true else s.closeConn, pc := .closeConn }
  | recvClosed (data : Chunk) (hd : data.bytes.length = 0) : Turn s (.recv (.ok data))
      { s.note (.recv (s.fds s.i) (.ok data)) with closeConn := true, pc := .closeConn }
  | recvData (data : Chunk) (hd : data.bytes.length ≠ 0) : Turn s (.recv (.ok data))
      { s.note (.recv (s.fds s.i) (.ok data)) with
        buffer := data.bytes ++ s.buffer.drop data.bytes.length, len := data.bytes.length
        pc := .send }
  | sendError (e : Errno) : Turn s (.send (.error e))
      { s.note (.send (s.fds s.i) (s.buffer.take s.len) (.error e)) with
        closeConn := true, pc := .closeConn }
  | send (n : ℕ) : Turn s (.send (.ok n))
      { s.note (.send (s.fds s.i) (s.buffer.take s.len) (.ok n)) with pc := .recv }
  | sendKilled : Turn s .sigpipe
      { s.note (.send (s.fds s.i) (s.buffer.take s.len) (.error epipe)) with pc := .killed }
  | closeNot (hc : s.closeConn = false) : Turn s .closeConn { s with i := s.i + 1, pc := .scan }
  | closeUndefined (hc : s.closeConn = true)
      (hm : fdClr s.i s.masterSet = none ∨ ∃ master, fdClr s.i s.masterSet = some master ∧
        s.i = s.maxSd ∧ master.lower s.maxSd = none) :
      Turn s .closeConn { s.close s.i with pc := .undefined }
  | closeMax (hc : s.closeConn = true) (master : FdSet) (hm : fdClr s.i s.masterSet = some master)
      (hmax : s.i = s.maxSd) (sd : ℕ) (hsd : master.lower s.maxSd = some sd) :
      Turn s .closeConn { s.close s.i with
        masterSet := master, maxSd := sd, i := s.i + 1, pc := .scan }
  | close (hc : s.closeConn = true) (master : FdSet) (hm : fdClr s.i s.masterSet = some master)
      (hmax : s.i ≠ s.maxSd) :
      Turn s .closeConn { s.close s.i with masterSet := master, i := s.i + 1, pc := .scan }
  | sweepUndefined (hcond : s.i ≤ s.maxSd) (hi : fdIsset s.i s.masterSet = none) :
      Turn s .sweep { s with pc := .undefined }
  | sweepSkip (hcond : s.i ≤ s.maxSd) (hi : s.i ∉ s.masterSet) :
      Turn s .sweep { s with i := s.i + 1, pc := .sweep }
  | sweepClose (hcond : s.i ≤ s.maxSd) (hi : s.i ∈ s.masterSet) :
      Turn s .sweep { s.close s.i with i := s.i + 1, pc := .sweep }
  | sweepEnd (hdone : ¬ s.i ≤ s.maxSd) : Turn s .sweep { s with pc := .finished }

section Turn
variable (s : Server)

theorem turn_onListen (u : Unit) : Turn s (.listen (.ok u)) (s.onListen (.ok u)) := by
  unfold Server.onListen
  cases hm : fdSet s.listenSd fdZero with
  | none => exact .listenUndefined u hm
  | some master => exact .listen u master hm

theorem turn_onSelect (gap slept : ℕ) (r : Except Errno FdSet) :
    Turn s (.select gap slept r) (s.onSelect gap slept r) := by
  unfold Server.onSelect
  by_cases hrange : fdSetSize < s.maxSd + 1
  · rw [if_pos hrange]; exact .selectUndefined gap slept r hrange
  · rw [if_neg hrange]
    cases r with
    | error e => exact .selectError gap slept e
    | ok ready =>
      show Turn s _ (if ready.bits.card = 0 then _ else _)
      by_cases hzero : ready.bits.card = 0
      · rw [if_pos hzero]; exact .selectTimeout gap slept ready hzero
      · rw [if_neg hzero]; exact .selectReady gap slept ready hzero

theorem turn_onScan : Turn s .scan s.onScan := by
  unfold Server.onScan
  by_cases hcond : s.i ≤ s.maxSd ∧ 0 < s.descReady
  · rw [if_pos hcond]
    cases hon : fdIsset s.i s.workingSet with
    | none => exact .scanUndefined hcond hon
    | some on =>
      have hmem := fdIsset_eq_some hon
      cases on with
      | false => exact .scanSkip hcond (by simpa using hmem)
      | true =>
        show Turn s .scan (if s.i = s.listenSd then _ else _)
        by_cases hl : s.i = s.listenSd
        · rw [if_pos hl]; exact .scanListen hcond (hmem.mp rfl) hl
        · rw [if_neg hl]; exact .scanConn hcond (hmem.mp rfl) hl
  · rw [if_neg hcond]
    by_cases hend : s.endServer = true
    · rw [if_pos hend]; exact .scanEnd hcond hend
    · rw [if_neg hend]; exact .scanAgain hcond (Bool.eq_false_iff.mpr hend)

theorem turn_onAcceptIoctl (u : Unit) :
    Turn s (.acceptIoctl (.ok u)) (s.onAcceptIoctl (.ok u)) := by
  show Turn s _ (match fdSet s.newSd s.masterSet with | none => _ | some master => _)
  cases hm : fdSet s.newSd s.masterSet with
  | none => exact .acceptUndefined u hm
  | some master => exact .acceptAdd u master hm

theorem turn_onRecv (data : Chunk) : Turn s (.recv (.ok data)) (s.onRecv (.ok data)) := by
  show Turn s _ (if data.bytes.length = 0 then _ else _)
  by_cases hd : data.bytes.length = 0
  · rw [if_pos hd]; exact .recvClosed data hd
  · rw [if_neg hd]; exact .recvData data hd

theorem turn_onCloseConn : Turn s .closeConn s.onCloseConn := by
  unfold Server.onCloseConn
  by_cases hc : s.closeConn = true
  · rw [if_pos hc]
    show Turn s _ (match fdClr s.i s.masterSet with | none => _ | some master => _)
    cases hm : fdClr s.i s.masterSet with
    | none => exact .closeUndefined hc (Or.inl hm)
    | some master =>
      show Turn s _ (if s.i = s.maxSd then _ else _)
      by_cases hmax : s.i = s.maxSd
      · rw [if_pos hmax]
        show Turn s _ (match master.lower s.maxSd with | none => _ | some sd => _)
        cases hsd : master.lower s.maxSd with
        | none => exact .closeUndefined hc (Or.inr ⟨master, hm, hmax, hsd⟩)
        | some sd => exact .closeMax hc master hm hmax sd hsd
      · rw [if_neg hmax]; exact .close hc master hm hmax
  · rw [if_neg hc]; exact .closeNot (Bool.eq_false_iff.mpr hc)

theorem turn_onSweep : Turn s .sweep s.onSweep := by
  unfold Server.onSweep
  by_cases hcond : s.i ≤ s.maxSd
  · rw [if_pos hcond]
    cases hon : fdIsset s.i s.masterSet with
    | none => exact .sweepUndefined hcond hon
    | some on =>
      have hmem := fdIsset_eq_some hon
      cases on with
      | false => exact .sweepSkip hcond (by simpa using hmem)
      | true => exact .sweepClose hcond (hmem.mp rfl)
  · rw [if_neg hcond]; exact .sweepEnd hcond

/-- **What one step can do.** -/
theorem turn_react (e : Event) : Turn s e (s.react e) := by
  cases e with
  | socket r =>
    cases r with
    | error e => exact .socketError e
    | ok sd => exact .socket sd
  | ioctl r =>
    cases r with
    | error e => exact .ioctlError e
    | ok u => exact .ioctl u
  | bind r =>
    cases r with
    | error e => exact .bindError e
    | ok u => exact .bind u
  | listen r =>
    cases r with
    | error e => exact .listenError e
    | ok u => exact turn_onListen s u
  | select gap slept r => exact turn_onSelect s gap slept r
  | scan => exact turn_onScan s
  | accept r =>
    cases r with
    | error e => exact .acceptError e
    | ok sd => exact .accept sd
  | acceptIoctl r =>
    cases r with
    | error e => exact .acceptIoctlError e
    | ok u => exact turn_onAcceptIoctl s u
  | recv r =>
    cases r with
    | error e => exact .recvError e
    | ok data => exact turn_onRecv s data
  | send r =>
    cases r with
    | error e => exact .sendError e
    | ok n => exact .send n
  | sigpipe => exact .sendKilled
  | closeConn => exact turn_onCloseConn s
  | sweep => exact turn_onSweep s

end Turn

theorem turn_of_steps {s s' : Server} {e : Event} (h : Steps s e s') :
    s.pc = e.pc ∧ Turn s e s' ∧ Kernel s e := by
  obtain ⟨hpc, rfl, hk⟩ := steps_iff.mp h
  exact ⟨hpc, turn_react s e, hk⟩

/-- **The server stops in four places only**; everywhere else some result of the
pending call lets it go on. -/
theorem stuck_iff {s : Server} :
    (∀ e s', ¬ Steps s e s') ↔
      s.pc = .finished ∨ s.pc = .exited ∨ s.pc = .killed ∨ s.pc = .undefined := by
  constructor
  · intro h
    have no : ∀ e, Kernel s e → s.pc ≠ e.pc := fun e hk hpc =>
      h e _ (steps_iff.mpr ⟨hpc, rfl, hk⟩)
    cases hpc : s.pc with
    | finished => exact Or.inl rfl
    | exited => exact Or.inr (Or.inl rfl)
    | killed => exact Or.inr (Or.inr (Or.inl rfl))
    | undefined => exact Or.inr (Or.inr (Or.inr rfl))
    | socket => exact absurd hpc (no (.socket (.error .eintr)) trivial)
    | ioctl => exact absurd hpc (no (.ioctl (.ok ())) trivial)
    | bind => exact absurd hpc (no (.bind (.ok ())) trivial)
    | listen => exact absurd hpc (no (.listen (.ok ())) trivial)
    | select => exact absurd hpc (no (.select 0 0 (.error .eintr)) trivial)
    | scan => exact absurd hpc (no .scan trivial)
    | accept => exact absurd hpc (no (.accept (.error .ewouldblock)) trivial)
    | acceptIoctl => exact absurd hpc (no (.acceptIoctl (.ok ())) trivial)
    | recv => exact absurd hpc (no (.recv (.error .ewouldblock)) trivial)
    | send => exact absurd hpc (no (.send (.error .ewouldblock)) trivial)
    | closeConn => exact absurd hpc (no .closeConn trivial)
    | sweep => exact absurd hpc (no .sweep trivial)
  · rintro h e s' hs
    obtain ⟨hpc, -⟩ := steps_iff.mp hs
    rcases h with h | h | h | h <;> rw [h] at hpc <;> cases e <;> cases hpc

/-! ## Running the server -/

instance Kernel.decidable (s : Server) : ∀ e, Decidable (Kernel s e)
  | .socket (.ok sd) | .accept (.ok sd) => inferInstanceAs (Decidable (s.fds sd = none))
  | .select _ slept (.ok ready) =>
    inferInstanceAs (Decidable ((∀ sd ∈ ready.bits, sd ∈ s.masterSet.bits) ∧
      (ready.bits.card = 0 → s.timeout.micros ≤ slept)))
  | .send (.ok n) => inferInstanceAs (Decidable (n ≤ s.len))
  | .socket (.error _) | .accept (.error _) | .select _ _ (.error _) | .send (.error _)
  | .ioctl _ | .bind _ | .listen _ | .scan | .acceptIoctl _ | .recv _ | .sigpipe | .closeConn
  | .sweep => .isTrue trivial

/-- The start with all uninitialised variables zero. -/
def start : Server where
  pc := .socket
  listenSd := 0
  maxSd := 0
  newSd := 0
  descReady := 0
  endServer := false
  closeConn := false
  i := 0
  len := 0
  buffer := List.replicate bufferSize 0
  masterSet := fdZero
  workingSet := fdZero
  timeout := ⟨0, 0⟩
  fds _ := none
  acquired := 0
  now := 0
  calls := []

theorem initial_start : Initial start := ⟨rfl, rfl, fun _ => rfl, rfl, rfl⟩

/-- The state after a list of events; `start` if one of them is not possible. -/
def serve (es : List Event) : Server := (replay (restrict Server.step Kernel) start es).getD start

theorem reachable_serve {es : List Event}
    (h : (replay (restrict Server.step Kernel) start es).isSome = true) :
    Reachable Steps Initial (serve es) := by
  obtain ⟨s, hs⟩ := Option.isSome_iff_exists.mp h
  have he : serve es = s := by simp [serve, hs]
  exact ⟨start, es, initial_start, he ▸ run_guarded_of_replay hs⟩

theorem run_serve {es es' : List Event}
    (h : (replay (restrict Server.step Kernel) start (es ++ es')).isSome = true) :
    Run Steps (serve es) es' (serve (es ++ es')) := by
  obtain ⟨s', hs'⟩ := Option.isSome_iff_exists.mp h
  have he' : serve (es ++ es') = s' := by simp [serve, hs']
  rw [replay_append] at hs'
  obtain ⟨s, hs, hrun⟩ := Option.bind_eq_some_iff.mp hs'
  have he : serve es = s := by simp [serve, hs]
  rw [he, he']
  exact run_guarded_of_replay hrun

/-- The run of `serve`. -/
theorem run_start {es : List Event}
    (h : (replay (restrict Server.step Kernel) start es).isSome = true) :
    Run Steps start es (serve es) :=
  @run_serve [] es h

theorem three_inRange : ∀ sd ∈ ({3} : Finset ℕ), sd < fdSetSize := by decide

theorem four_inRange : ∀ sd ∈ ({4} : Finset ℕ), sd < fdSetSize := by decide

theorem nil_length_le : ([] : List UInt8).length ≤ bufferSize := Nat.zero_le bufferSize

theorem three_length_le : ([1, 2, 3] : List UInt8).length ≤ bufferSize := by decide

/-- `select()` reports 4 and 5. -/
def fourFive : FdSet := ⟨{4, 5}, by decide⟩

/-- A chunk of one byte. -/
def Chunk.byte (b : UInt8) : Chunk := ⟨[b], Nat.le_add_left 1 79⟩

/-- The setup on descriptor 3, and a first round that accepts one client on 4. -/
def oneClient : List Event :=
  [.socket (.ok 3), .ioctl (.ok ()), .bind (.ok ()), .listen (.ok ()),
    .select 0 0 (.ok ⟨{3}, three_inRange⟩), .scan, .scan, .scan, .scan, .accept (.ok 4),
    .acceptIoctl (.ok ()), .accept (.error .ewouldblock), .scan]

/-- The setup on descriptor 3, and a first round that accepts two clients on 4 and 5. -/
def twoClients : List Event :=
  [.socket (.ok 3), .ioctl (.ok ()), .bind (.ok ()), .listen (.ok ()),
    .select 0 0 (.ok ⟨{3}, three_inRange⟩), .scan, .scan, .scan, .scan, .accept (.ok 4),
    .acceptIoctl (.ok ()), .accept (.ok 5), .acceptIoctl (.ok ()), .accept (.error .ewouldblock),
    .scan]

/-- The client sends a byte and closes its connection. -/
def closing : List Event :=
  oneClient ++ [.select 0 0 (.ok ⟨{4}, four_inRange⟩), .scan, .scan, .scan, .scan, .scan,
    .recv (.ok ⟨[7], by decide⟩), .send (.ok 1), .recv (.ok ⟨[], nil_length_le⟩)]

/-- The connection is closed, and the next `select()` times out. -/
def oneVisit : List Event :=
  closing ++ [.closeConn, .scan, .select 5 180000000 (.ok fdZero), .sweep, .sweep, .sweep,
    .sweep, .sweep]

end SimpleTests.Sockets
