import SimpleTests.UseSelectDescriptors
import SimpleTests.DecimalText
import Mathlib.Algebra.Group.Int.Defs

/-! # The port argument

`main()` of the two `mysocket()` servers hands `std::stoi(argv[2])` to `mysocket()`, which
hands it to `htons()`.  `stoi()` is content with any text that starts with a number, and
the conversion to 16 bits with any `int`.

`boundAddrs_mysocket` says what is bound: the port modulo 65536.  `portDenoted_iff` says
for which arguments this is the number that the argument denotes.
-/
namespace SimpleTests.Sockets
open DecimalText

/-- The exceptions of `std::stoi()`. -/
inductive StoiError
  | invalidArgument
  | outOfRange
  deriving DecidableEq

/-- `std::stoi()` -/
def stoi (s : Text) : Except StoiError ℤ :=
  if (scan s).digits = [] then .error .invalidArgument
  else if -2 ^ 31 ≤ (scan s).number ∧ (scan s).number ≤ 2 ^ 31 - 1 then .ok (scan s).number
  else .error .outOfRange

/-- How far a program run gets. -/
inductive MainOutcome
  /-- `return -1` behind the usage message -/
  | usage
  /-- The exception is not caught. -/
  | terminated (e : StoiError)
  | ran (o : Outcome)
  deriving DecidableEq

/-- The usage message of the program with this name. -/
def usage (program : Text) : String :=
  "Usage:   " ++ String.ofList program ++ " <local_ip_address> <port>\n" ++
  "Example: " ++ String.ofList program ++ " 127.0.0.1 22649\n" ++
  "Then you can use 'nc (netcat)' on another console to send data,\n" ++
  "e.g.: nc localhost 22649\n"

/-- `main()`.  The address in `argv[1]` goes to `inet_pton()`. -/
def main (a : Answers) (argv : List Text) (p : Process) : MainOutcome × Process :=
  match argv with
  | _ :: _ :: port :: _ =>
    match stoi port with
    | .error e => (.terminated e, p)
    | .ok port =>
      let r := mysocket a port p
      (.ran r.1, r.2)
  | argv => (.usage, p.stderr (usage (argv.headD [])))

/-! ## The bound address -/

/-- The address a call binds a socket to. -/
def SysCall.binds : SysCall → Option SockaddrIn
  | .bind _ addr _ => some addr
  | _ => none

/-- The addresses that `bind()` has been called with. -/
def boundAddrs (calls : List SysCall) : List SockaddrIn := calls.filterMap SysCall.binds

/-- The address that `bind()` is called with, if the function gets that far. -/
def Answers.local (a : Answers) (port : ℤ) : List SockaddrIn :=
  match a.inetPton, a.socket with
  | .ok (some addr), .ok _ => [⟨htons (.ofInt port), addr⟩]
  | _, _ => []

variable {a : Answers} {p q : Process}

theorem boundAddrs_of_makes {kind : SysCall → Prop} (hkind : ∀ c, kind c → c.binds = none)
    (h : Makes kind p q) : boundAddrs q.calls = boundAddrs p.calls :=
  h.view fun _ _ hc => List.filterMap_cons_none (hkind _ hc)

theorem boundAddrs_closes (h : Closes p q) : boundAddrs q.calls = boundAddrs p.calls :=
  boundAddrs_of_makes (fun c hc => by cases c <;> first | rfl | cases hc) h

/-- Nothing is bound in the receive loop. -/
theorem boundAddrs_receive (sock connFd : ℕ) (rs : List Reception) (buffer : StreamBuffer)
    (p : Process) : boundAddrs (receive a sock connFd rs buffer p).2.calls = boundAddrs p.calls := by
  induction rs generalizing buffer p with
  | nil => rfl
  | cons x rest ih =>
    obtain ⟨r, write⟩ := x
    have leaves : ∀ r, boundAddrs (leave a sock connFd (p.recv connFd r)).2.calls =
        boundAddrs p.calls := fun r => (boundAddrs_closes (closes_leave a sock connFd _)).trans rfl
    rcases r with e | data
    · exact leaves _
    · unfold receive
      by_cases hd : data.bytes.length ≤ 0
      · rw [if_pos hd]
        exact leaves _
      · rw [if_neg hd]
        exact ih _ _

theorem mem_local {port : ℤ} {x : SockaddrIn} : x ∈ a.local port ↔
    ∃ addr sock, a.Socketed addr sock ∧ x = ⟨htons (.ofInt port), addr⟩ := by
  unfold Answers.local
  constructor
  · intro hx
    split at hx
    · rename_i addr sock hi hs
      exact ⟨addr, sock, ⟨hi, hs⟩, List.mem_singleton.mp hx⟩
    · cases hx
  · rintro ⟨addr, sock, hs, rfl⟩
    rw [hs.inetPton, hs.socket]
    exact List.mem_singleton_self _

/-- **What `mysocket()` binds**: nothing, or the address with the low 16 bits of the
port. -/
theorem boundAddrs_mysocket (a : Answers) (port : ℤ) (e : Errno) :
    boundAddrs (mysocket a port ⟨e, []⟩).2.calls = a.local port := by
  have hexit := exit_mysocket a port
  generalize mysocket a port = run at hexit
  have socketed : ∀ {addr sock}, a.Socketed addr sock →
      a.local port = [⟨htons (.ofInt port), addr⟩] := fun hs => by
    simp only [Answers.local, hs.inetPton, hs.socket]
  cases hexit with
  | inetPton r hr h =>
    apply (boundAddrs_closes (closes_giveUp ..)).trans
    rcases r with e | _ | addr
    · simp only [Answers.local, hr]; rfl
    · simp only [Answers.local, hr]; rfl
    · exact absurd rfl (h addr)
  | socket addr e hi h =>
    apply (boundAddrs_closes (closes_giveUp ..)).trans
    simp only [Answers.local, hi, h]
    rfl
  | bind addr sock e hs | listen addr sock e hs =>
    rw [socketed hs]
    exact boundAddrs_closes (closes_giveUp ..)
  | accept addr sock e hl h =>
    rw [socketed hl.toSocketed]
    exact boundAddrs_closes (closes_giveUp ..)
  | undefined addr sock connFd ha h =>
    rw [socketed ha.toSocketed]
    rfl
  | select addr sock connFd r ha hlt hr h =>
    rw [socketed ha.toSocketed]
    exact boundAddrs_closes (closes_giveUp ..)
  | loop addr sock connFd n hc =>
    rw [socketed hc.toSocketed]
    exact boundAddrs_receive sock connFd _ _ _

/-! ## What the argument denotes -/

/-- A text that `stoi()` reads in full, as a number that 16 bits can hold. -/
structure PortText (s : Text) : Prop where
  skipped : (scan s).skipped = []
  rest : (scan s).rest = []
  nonneg : 0 ≤ (scan s).number
  le : (scan s).number ≤ 65535

theorem stoi_eq_ok {s : Text} {n : ℤ} (h : stoi s = .ok n) :
    (scan s).digits ≠ [] ∧ (scan s).number = n := by
  unfold stoi at h
  by_cases hd : (scan s).digits = []
  · rw [if_pos hd] at h
    cases h
  · rw [if_neg hd] at h
    by_cases hr : -2 ^ 31 ≤ (scan s).number ∧ (scan s).number ≤ 2 ^ 31 - 1
    · rw [if_pos hr] at h
      exact ⟨hd, Except.ok.inj h⟩
    · rw [if_neg hr] at h
      cases h

/-- **Which arguments denote the port that is bound.** -/
theorem denotes_port_iff {s : Text} {n : ℤ} (h : stoi s = .ok n) :
    Denotes s (ntohs (htons (.ofInt n))).toNat ↔ PortText s := by
  obtain ⟨hdigits, rfl⟩ := stoi_eq_ok h
  rw [ntohs_htons, toNat_ofInt, denotes_iff]
  constructor
  · rintro ⟨hskip, -, hrest, heq⟩
    exact ⟨hskip, hrest, by omega, by omega⟩
  · intro hport
    have hnonneg := hport.nonneg
    have hle := hport.le
    exact ⟨hport.skipped, hdigits, hport.rest, by omega⟩

/-- Every port that a run of `main()` calls `bind()` with is the number that the argument,
as a whole, denotes. -/
def PortDenoted (a : Answers) (program ip s : Text) (more : List Text) (e : Errno) : Prop :=
  ∀ addr ∈ boundAddrs (main a (program :: ip :: s :: more) ⟨e, []⟩).2.calls,
    Denotes s (ntohs addr.sinPort).toNat

/-- **When the argument is honoured**: for every command line, in every environment, the
port of a bound address is the number that the argument denotes, exactly if the run does
not get to `bind()`, or `stoi()` reads the argument in full and 16 bits can hold the
number. -/
theorem portDenoted_iff (a : Answers) (program ip s : Text) (more : List Text) (e : Errno) :
    PortDenoted a program ip s more e ↔
      ((∃ addr sock, a.Socketed addr sock) → (∃ n, stoi s = .ok n) → PortText s) := by
  unfold PortDenoted
  rcases hs : stoi s with err | n
  · have hmain : main a (program :: ip :: s :: more) ⟨e, []⟩ = (.terminated err, ⟨e, []⟩) := by
      simp only [main, hs]
    have hnil : boundAddrs (main a (program :: ip :: s :: more) ⟨e, []⟩).2.calls = [] := by
      rw [hmain]
      rfl
    rw [hnil]
    refine iff_of_true (fun addr haddr => absurd haddr List.not_mem_nil) ?_
    rintro - ⟨n, hn⟩
    cases hn
  · have hmain : (main a (program :: ip :: s :: more) ⟨e, []⟩).2 = (mysocket a n ⟨e, []⟩).2 := by
      simp only [main, hs]
    rw [hmain, boundAddrs_mysocket]
    constructor
    · rintro h ⟨addr, sock, hsock⟩ -
      have hden := h ⟨htons (.ofInt n), addr⟩ (mem_local.mpr ⟨addr, sock, hsock, rfl⟩)
      exact (denotes_port_iff hs).mp hden
    · intro h x hx
      obtain ⟨addr, sock, hsock, rfl⟩ := mem_local.mp hx
      exact (denotes_port_iff hs).mpr (h ⟨addr, sock, hsock⟩ ⟨n, rfl⟩)

/-- `80abc` is bound as port 80, and `65536` as port 0. -/
theorem not_portDenoted_connection :
    let run := fun s => boundAddrs (main (connection []) [['a'], ['i'], s] ⟨.other 0, []⟩).2.calls
    run ['8', '0', 'a', 'b', 'c'] = [⟨⟨0, 80⟩, ⟨127, 0, 0, 1⟩⟩] ∧
    ¬ PortDenoted (connection []) ['a'] ['i'] ['8', '0', 'a', 'b', 'c'] [] (.other 0) ∧
    run ['6', '5', '5', '3', '6'] = [⟨⟨0, 0⟩, ⟨127, 0, 0, 1⟩⟩] ∧
    ¬ PortDenoted (connection []) ['a'] ['i'] ['6', '5', '5', '3', '6'] [] (.other 0) := by
  intro run
  have h80 : run ['8', '0', 'a', 'b', 'c'] = [⟨⟨0, 80⟩, ⟨127, 0, 0, 1⟩⟩] := by decide
  have h0 : run ['6', '5', '5', '3', '6'] = [⟨⟨0, 0⟩, ⟨127, 0, 0, 1⟩⟩] := by decide
  refine ⟨h80, fun h => ?_, h0, fun h => ?_⟩
  · have hmem : ⟨⟨0, 80⟩, ⟨127, 0, 0, 1⟩⟩ ∈ run ['8', '0', 'a', 'b', 'c'] := by simp [h80]
    obtain ⟨-, -, hrest, -⟩ := denotes_iff.mp (h _ hmem)
    exact absurd hrest (by decide)
  · have hmem : ⟨⟨0, 0⟩, ⟨127, 0, 0, 1⟩⟩ ∈ run ['6', '5', '5', '3', '6'] := by simp [h0]
    obtain ⟨-, -, -, hnum⟩ := denotes_iff.mp (h _ hmem)
    exact absurd hnum (by decide)

end SimpleTests.Sockets
