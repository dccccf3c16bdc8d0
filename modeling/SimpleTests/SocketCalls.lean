import Mathlib.Data.Nat.Notation
import Mathlib.Data.Int.Notation
import Mathlib.Data.List.Basic

/-! # System calls of the socket programs

What the programs share: `errno`, internet addresses with their ports in network byte
order, and the record of the calls a function makes.

A call sets `errno` only when it fails, so `Process.call` leaves it alone otherwise.
The record is what a tracer of the process would show.  The descriptors a function has
obtained, and those it has passed to `close()`, are read off it.
-/
namespace SimpleTests.Sockets

/-- The values of `errno` that the programs tell apart. -/
inductive Errno
  | ewouldblock
  | eintr
  | other (code : ℕ)
  deriving DecidableEq

/-- `EXIT_SUCCESS` and `EXIT_FAILURE` -/
inductive Status
  | success
  | failure
  deriving DecidableEq

/-! ## Addresses -/

/-- The two bytes of a 16-bit value in network byte order. -/
structure NetShort where
  hi : UInt8
  lo : UInt8
  deriving DecidableEq

/-- `htons()` -/
def htons (n : UInt16) : NetShort := ⟨.ofNat (n.toNat / 256), .ofNat n.toNat⟩

/-- `ntohs()` -/
def ntohs (n : NetShort) : UInt16 := .ofNat (n.hi.toNat * 256 + n.lo.toNat)

theorem ntohs_htons (n : UInt16) : ntohs (htons n) = n := by
  apply UInt16.toNat_inj.mp
  have hlt := n.toNat_lt
  simp only [ntohs, htons, UInt16.toNat_ofNat', UInt8.toNat_ofNat']
  omega

/-- The conversion of an `int` to the 16 bits that `htons()` takes. -/
theorem toNat_ofInt (n : ℤ) : ((UInt16.ofInt n).toNat : ℤ) = n % 65536 := by
  have hnonneg := Int.emod_nonneg n (by decide : (65536 : ℤ) ≠ 0)
  have hlt := Int.emod_lt_of_pos n (by decide : (0 : ℤ) < 65536)
  simp only [UInt16.ofInt, UInt16.toNat_ofNat']
  omega

/-- `struct in_addr`, the four bytes in network order. -/
structure InAddr where
  b0 : UInt8
  b1 : UInt8
  b2 : UInt8
  b3 : UInt8
  deriving DecidableEq

/-- `struct sockaddr_in` of family `AF_INET`. -/
structure SockaddrIn where
  sinPort : NetShort
  sinAddr : InAddr
  deriving DecidableEq

/-! ## The record of calls -/

/-- The calls, each with its result. -/
inductive SysCall
  | inetPton (r : Except Errno (Option InAddr))
  | socket (r : Except Errno ℕ)
  | bind (sd : ℕ) (addr : SockaddrIn) (r : Except Errno Unit)
  | listen (sd : ℕ) (r : Except Errno Unit)
  | accept (sd : ℕ) (r : Except Errno ℕ)
  | inetNtop (addr : InAddr) (ok : Bool)
  | select (nfds : ℕ) (r : Except Errno ℕ)
  /-- `errno` is its value when `recv()` has returned. -/
  | recv (sd : ℕ) (r : Except Errno (List UInt8)) (errno : Errno)
  | close (sd : ℕ) (r : Except Errno Unit)
  | stdout (text : String)
  /-- A C string is printed; `none` if its memory has no terminating NUL. -/
  | print (text : Option (List UInt8))
  | stderr (text : String)

/-- The process, as far as the calls change it. -/
structure Process where
  errno : Errno
  /-- The calls made so far, most recent first. -/
  calls : List SysCall

/-- The value a failing call gives to `errno`. -/
def failed {α : Type} : Except Errno α → Option Errno
  | .error e => some e
  | .ok _ => none

namespace Process
variable (p : Process)

/-- A call is made. -/
def call (c : SysCall) (failed : Option Errno) : Process := ⟨failed.getD p.errno, c :: p.calls⟩

/-- A message is written to `stderr`.  No caller looks at `errno` behind it. -/
def stderr (text : String) : Process := p.call (.stderr text) none

@[simp] theorem calls_call (c : SysCall) (e : Option Errno) :
    (p.call c e).calls = c :: p.calls := rfl
@[simp] theorem calls_stderr (text : String) :
    (p.stderr text).calls = .stderr text :: p.calls := rfl
@[simp] theorem errno_call_none (c : SysCall) : (p.call c none).errno = p.errno := rfl
@[simp] theorem errno_call_some (c : SysCall) (e : Errno) : (p.call c (some e)).errno = e := rfl

end Process

/-- `close_socket()`, of which each program has a copy. -/
def closeSocket (sock : ℕ) (r : Except Errno Unit) (p : Process) : Status × Process :=
  let p := p.call (.close sock r) (failed r)
  match r with
  | .error _ => (.failure, p.stderr "mysocket: error closing socket\n")
  | .ok _ => (.success, p)

/-! ## Parts of a record -/

/-- From `p` to `q` calls of one kind are made, and no others. -/
def Makes (kind : SysCall → Prop) (p q : Process) : Prop :=
  ∃ log, q.calls = log ++ p.calls ∧ ∀ c ∈ log, kind c

/-- The calls a function makes when it is done. -/
def SysCall.Ending : SysCall → Prop
  | .close .. | .stderr _ => True
  | _ => False

/-- The calls that deal with no data. -/
def SysCall.Quiet : SysCall → Prop
  | .recv .. | .print _ => False
  | _ => True

/-- Descriptors are closed and messages are written to `stderr`. -/
abbrev Closes (p q : Process) : Prop := Makes SysCall.Ending p q

section Makes
variable {kind kind' : SysCall → Prop} {p q r : Process}

theorem Makes.refl (p : Process) : Makes kind p p := ⟨[], rfl, List.forall_mem_nil _⟩

theorem Makes.trans (h : Makes kind p q) (h' : Makes kind q r) : Makes kind p r := by
  obtain ⟨log, hq, hlog⟩ := h
  obtain ⟨log', hr, hlog'⟩ := h'
  refine ⟨log' ++ log, by rw [hr, hq, List.append_assoc], fun c hc => ?_⟩
  exact (List.mem_append.mp hc).elim (hlog' c) (hlog c)

theorem Makes.mono (h : Makes kind p q) (hkind : ∀ c, kind c → kind' c) : Makes kind' p q := by
  obtain ⟨log, hq, hlog⟩ := h
  exact ⟨log, hq, fun c hc => hkind c (hlog c hc)⟩

theorem Makes.call {c : SysCall} (h : Makes kind p q) (hc : kind c) (e : Option Errno) :
    Makes kind p (q.call c e) := by
  obtain ⟨log, hq, hlog⟩ := h
  exact ⟨c :: log, congrArg (c :: ·) hq, List.forall_mem_cons.mpr ⟨hc, hlog⟩⟩

/-- What a kind of calls does not show in is the same before and after them. -/
theorem Makes.view {β : Sort*} {f : List SysCall → β} (h : Makes kind p q)
    (hf : ∀ c calls, kind c → f (c :: calls) = f calls) : f q.calls = f p.calls := by
  obtain ⟨log, hq, hlog⟩ := h
  rw [hq]
  clear hq
  induction log with
  | nil => rfl
  | cons c log ih =>
    obtain ⟨hc, hlog⟩ := List.forall_mem_cons.mp hlog
    rw [List.cons_append, hf c _ hc]
    exact ih hlog

theorem Closes.quiet (h : Closes p q) : Makes SysCall.Quiet p q := by
  apply h.mono
  intro c hc
  cases c <;> trivial

theorem closes_stderr (p : Process) (text : String) : Closes p (p.stderr text) :=
  (Makes.refl p).call trivial none

theorem closes_closeSocket (sock : ℕ) (r : Except Errno Unit) (p : Process) :
    Closes p (closeSocket sock r p).2 := by
  have hclose : Closes p (p.call (.close sock r) (failed r)) := (Makes.refl p).call trivial _
  rcases r with e | u
  · exact hclose.trans (closes_stderr _ _)
  · exact hclose

end Makes

/-! ## Descriptors in the record -/

/-- The descriptor a call obtains. -/
def SysCall.obtains : SysCall → Option ℕ
  | .socket (.ok sd) | .accept _ (.ok sd) => some sd
  | _ => none

/-- The descriptor a call closes. -/
def SysCall.closes : SysCall → Option ℕ
  | .close sd _ => some sd
  | _ => none

/-- The descriptors obtained so far, most recent first. -/
def obtained (calls : List SysCall) : List ℕ := calls.filterMap SysCall.obtains

/-- The descriptors passed to `close()` so far, most recent first. -/
def closed (calls : List SysCall) : List ℕ := calls.filterMap SysCall.closes

/-- No `recv()` on a descriptor that has been closed. -/
def ReadsOpen (calls : List SysCall) : Prop :=
  ∀ later sd r e earlier, calls = later ++ .recv sd r e :: earlier → sd ∉ closed earlier

theorem closed_closeSocket (sock : ℕ) (r : Except Errno Unit) (p : Process) :
    closed (closeSocket sock r p).2.calls = sock :: closed p.calls := by
  rcases r with e | u <;> rfl

theorem Closes.obtained {p q : Process} (h : Closes p q) : obtained q.calls = obtained p.calls := by
  apply h.view
  intro c calls hc
  cases c <;> first | rfl | cases hc

end SimpleTests.Sockets
