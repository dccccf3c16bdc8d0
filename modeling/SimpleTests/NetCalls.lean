import SimpleTests.CallPrograms
import SimpleTests.CStrings
import SimpleTests.SocketProtocol
import SimpleTests.PeerAddress

/-! # Programs over `getaddrinfo()` and sockets

The calls of the small network programs: `multicast/send_ssdp_ipv4.cpp` and
`send_ssdp_ipv6.cpp`, `sockets/ipv4_mapped_ipv6_server.cpp`, `tests/connect_write.cpp` and
`tests/sendto_loopback.cpp`.

`net` is the contract of these programs.  They call their sockets in the order of the
protocol and free an address list that they hold; the kernel returns descriptors that are
not open.  `NetState` also follows what the calls have returned, which of them have failed and
what has been said about it, so that the output of a program can be compared with what has
happened.
-/
namespace SimpleTests.Net
open Transition CallPrograms SocketProtocol Sockets

/-! ## The calls -/

/-- `AF_INET` and `AF_INET6` -/
inductive Family
  | inet
  | inet6
  deriving DecidableEq

/-- `SOCK_STREAM` and `SOCK_DGRAM` -/
inductive SockType
  | stream
  | dgram
  deriving DecidableEq

/-- What `inet_pton()` fills in. -/
abbrev Family.Addr : Family → Type
  | .inet => InAddr
  | .inet6 => In6Addr

/-- The fields of `struct addrinfo` that hints set.  The flags are `AI_PASSIVE`,
`AI_NUMERICHOST`, `AI_NUMERICSERV` and `AI_V4MAPPED`. -/
structure Hints where
  passive : Bool
  numericHost : Bool
  numericServ : Bool
  v4mapped : Bool
  aiFamily : Family
  aiSocktype : SockType
  deriving DecidableEq

/-- `struct addrinfo` of a result. -/
structure Addrinfo where
  aiFamily : Family
  aiSocktype : SockType
  aiProtocol : ℤ
  aiAddr : Sockaddr
  deriving DecidableEq

/-- What `getaddrinfo()` returns: the first address info, and those behind `ai_next`. -/
structure AddrinfoList where
  head : Addrinfo
  aiNext : List Addrinfo
  deriving DecidableEq

/-- A piece of output: a text, or a C string in memory, `none` if nothing is known of it. -/
inductive Piece
  | text (s : String)
  | cstr (bytes : Option (List UInt8))
  deriving DecidableEq

inductive NetCall
  | inetPton (family : Family) (src : String)
  | ifNametoindex (name : String)
  | getaddrinfo (node service : Option String) (hints : Hints)
  | freeaddrinfo (res : AddrinfoList)
  /-- Both results are asked for in numeric form. -/
  | getnameinfo (addr : Sockaddr)
  | socket (family : Family) (socktype : SockType) (protocol : ℤ)
  /-- `setsockopt(sd, IPPROTO_IPV6, IPV6_V6ONLY, ..)` -/
  | setV6only (sd : ℤ) (on : Bool)
  | bind (sd : ℤ) (addr : Sockaddr)
  | listen (sd : ℤ)
  | accept (sd : ℤ)
  | connect (sd : ℤ) (addr : Sockaddr)
  | sendto (sd : ℤ) (data : List UInt8) (addr : Sockaddr)
  | write (sd : ℤ) (data : List UInt8)
  | read (sd : ℤ) (count : ℕ)
  | shutdown (sd : ℤ)
  | close (sd : ℤ)
  | stdout (pieces : List Piece)
  | stderr (text : String)
  deriving DecidableEq

/-- What a call returns.  An error is the value of `errno`, or the code that the call
returns. -/
abbrev NetCall.Reply : NetCall → Type
  | .inetPton family _ => Except ℤ family.Addr
  | .ifNametoindex _ => Except ℕ Word
  | .getaddrinfo .. => Except ℤ AddrinfoList
  | .getnameinfo _ => Except ℤ (List UInt8 × List UInt8)
  | .socket .. => Except ℕ ℕ
  | .accept _ => Except ℕ (ℕ × Sockaddr)
  | .setV6only .. | .bind .. | .listen _ | .connect .. | .shutdown _ | .close _ => Except ℕ Unit
  | .sendto .. | .write .. => Except ℕ ℕ
  | .read _ count => Except ℕ { data : List UInt8 // data.length ≤ count }
  | .freeaddrinfo _ | .stdout _ | .stderr _ => Unit

abbrev netInterface : Interface := ⟨NetCall, NetCall.Reply⟩

/-- How a program ends early. -/
inductive NetExit
  /-- `exit(code)` -/
  | exit (code : ℤ)
  /-- A null pointer is read. -/
  | undefined
  deriving DecidableEq

/-- The programs; the result is what `main()` returns. -/
abbrev NetProg : Type → Type := Prog netInterface NetExit

/-- A call whose result is not looked at. -/
def perform (c : NetCall) : NetProg Unit := .call c fun _ => .done ()

/-- A call whose result is checked: on an error, `check` has the message, and the program
ends with `exit(1)`. -/
def attempt {α : Type} (c : NetCall) (check : c.Reply → Except String α) : NetProg α :=
  .call c fun r =>
    match check r with
    | .ok a => .done a
    | .error message => .call (.stderr message) fun _ => .stop (.exit 1)

/-! ## The state that the calls lead to -/

/-- The name of a call in the messages. -/
def NetCall.name : NetCall → String
  | .inetPton .. => "inet_pton"
  | .ifNametoindex _ => "nametoindex"
  | .getaddrinfo .. => "getaddrinfo"
  | .freeaddrinfo _ => "freeaddrinfo"
  | .getnameinfo _ => "getnameinfo"
  | .socket .. => "socket"
  | .setV6only .. => "setsockopt"
  | .bind .. => "bind"
  | .listen _ => "listen"
  | .accept _ => "accept"
  | .connect .. => "connect"
  | .sendto .. => "sendto"
  | .write .. => "write"
  | .read .. => "read"
  | .shutdown _ => "shutdown"
  | .close _ => "close"
  | .stdout _ | .stderr _ => "print"

def isError {ε α : Type} : Except ε α → Bool
  | .error _ => true
  | .ok _ => false

/-- The call has failed. -/
def NetCall.fails : (c : NetCall) → c.Reply → Bool
  | .inetPton .., r | .getaddrinfo .., r | .getnameinfo _, r | .ifNametoindex _, r
  | .socket .., r | .accept _, r | .setV6only .., r | .bind .., r | .listen _, r
  | .connect .., r | .shutdown _, r | .close _, r | .sendto .., r | .write .., r
  | .read .., r => isError r
  | .freeaddrinfo _, _ | .stdout _, _ | .stderr _, _ => false

/-- The call on sockets that a call is. -/
def NetCall.op : (c : NetCall) → c.Reply → Option (Op ℤ)
  | .socket .., .ok sd => some (.socket sd)
  | .setV6only sd _, _ => some (.configure sd)
  | .bind sd _, r => some (.bind sd (!isError r))
  | .listen sd, r => some (.listen sd (!isError r))
  | .accept sd, .ok (conn, _) => some (.accept sd (some conn))
  | .accept sd, .error _ => some (.accept sd none)
  | .connect sd _, r => some (.connect sd (!isError r))
  | .sendto sd _ _, _ => some (.datagram sd)
  | .write sd _, _ | .read sd _, _ | .shutdown sd, _ => some (.transfer sd)
  | .close sd, _ => some (.close sd)
  | _, _ => none

/-- What a program has done so far, as far as others can see it. -/
structure NetState where
  /-- The open sockets. -/
  table : Table ℤ
  /-- How many address lists are held. -/
  lists : ℕ
  /-- The names of the calls that have failed, most recent first. -/
  failed : List String
  /-- The messages on `stderr`, most recent first. -/
  messages : List String
  /-- The datagrams that have been sent, most recent first. -/
  datagrams : List (List UInt8 × Sockaddr)
  /-- The output, most recent first. -/
  output : List (List Piece)
  /-- The calls with what they have returned, most recent first. -/
  log : List (Entry netInterface)

namespace NetState

def init : NetState := ⟨Table.empty, 0, [], [], [], [], []⟩

variable (s : NetState) (c : NetCall)

/-- The open sockets behind a call. -/
def nextTable (r : c.Reply) : Table ℤ :=
  ((c.op r).bind s.table.step).getD s.table

def nextLists : (c : NetCall) → c.Reply → ℕ
  | .getaddrinfo .., .ok _ => s.lists + 1
  | .freeaddrinfo _, _ => s.lists - 1
  | _, _ => s.lists

def nextDatagrams : (c : NetCall) → c.Reply → List (List UInt8 × Sockaddr)
  | .sendto _ data addr, .ok _ => (data, addr) :: s.datagrams
  | _, _ => s.datagrams

/-- A call is made. -/
def next (r : c.Reply) : NetState where
  table := s.nextTable c r
  lists := s.nextLists c r
  failed := if c.fails r then c.name :: s.failed else s.failed
  messages := match c with
    | .stderr text => text :: s.messages
    | _ => s.messages
  datagrams := s.nextDatagrams c r
  output := match c with
    | .stdout pieces => pieces :: s.output
    | _ => s.output
  log := ⟨c, r⟩ :: s.log

/-- A call is in order. -/
def Ready : NetCall → Prop
  | .freeaddrinfo _ => 0 < s.lists
  | .setV6only sd _ | .close sd => s.table sd ≠ none
  | .bind sd _ => s.table sd = some .created
  | .listen sd => s.table sd = some .bound
  | .accept sd => s.table sd = some .listening
  | .connect sd _ | .sendto sd _ _ => s.table sd = some .created ∨ s.table sd = some .bound
  | .write sd _ | .read sd _ | .shutdown sd => s.table sd = some .connected
  | .inetPton .. | .ifNametoindex _ | .getaddrinfo .. | .getnameinfo _ | .socket .. | .stdout _
  | .stderr _ => True

/-- The kernel returns descriptors that are not open. -/
def Fresh : (c : NetCall) → c.Reply → Prop
  | .socket .., .ok sd => s.table sd = none
  | .accept _, .ok (conn, _) => s.table conn = none
  | _, _ => True

end NetState

/-- **The contract of the network programs.** -/
def net : Contract netInterface NetState where
  requires s c := s.Ready c
  assumes s c r := s.Fresh c r
  next s c r := s.next c r

/-- `::ffff:a.b.c.d` -/
def mapped (a b c d : UInt8) : In6Addr :=
  ⟨⟨#[0, 0, 0, 0, 0, 0, 0, 0, 0, 0, 255, 255, a, b, c, d], rfl⟩⟩

/-- `::` -/
def anyAddr : In6Addr := ⟨Vector.replicate 16 0⟩

/-- The addresses that the texts of the programs stand for; 0 for all other texts. -/
def addressOf : (family : Family) → String → Except ℤ family.Addr
  | .inet, "239.255.255.250" => .ok ⟨239, 255, 255, 250⟩
  | .inet6, "ff02::c" => .ok ⟨⟨#[255, 2, 0, 0, 0, 0, 0, 0, 0, 0, 0, 0, 0, 0, 0, 12], rfl⟩⟩
  | .inet6, "::1" => .ok ⟨⟨#[0, 0, 0, 0, 0, 0, 0, 0, 0, 0, 0, 0, 0, 0, 0, 1], rfl⟩⟩
  | .inet6, "::ffff:192.168.24.88" => .ok (mapped 192 168 24 88)
  | _, _ => .error 0

/-- Any local address, on a port. -/
def Family.passive (port : NetShort) : Family → Sockaddr
  | .inet => .inet ⟨port, ⟨0, 0, 0, 0⟩⟩
  | .inet6 => .inet6 ⟨port, ⟨0, 0, 0, 0⟩, anyAddr, ⟨0, 0, 0, 0⟩⟩

/-- An environment in which every call succeeds, on the descriptors 3 and 4, with the services
1900 and 50000.  The client is `::ffff:127.0.0.1` on port 40000. -/
def obliging : (c : NetCall) → c.Reply
  | .inetPton family src => addressOf family src
  | .ifNametoindex _ => .ok ⟨1, 0, 0, 0⟩
  | .getaddrinfo _ service hints =>
    let port := if service = some "1900" then htons 1900 else htons 50000
    .ok ⟨⟨hints.aiFamily, hints.aiSocktype, 0, hints.aiFamily.passive port⟩, []⟩
  | .getnameinfo _ => .ok (CStrings.literal "::ffff:127.0.0.1", CStrings.literal "40000")
  | .socket .. => .ok 3
  | .accept _ => .ok (4, .inet6 ⟨htons 40000, ⟨0, 0, 0, 0⟩, mapped 127 0 0 1, ⟨0, 0, 0, 0⟩⟩)
  | .setV6only .. | .bind .. | .listen _ | .connect .. | .shutdown _ | .close _ => .ok ()
  | .sendto _ data _ | .write _ data => .ok data.length
  | .read .. => .ok ⟨[], Nat.zero_le _⟩
  | .freeaddrinfo _ | .stdout _ | .stderr _ => ()

/-! ## The order of the calls -/

/-- The calls on sockets in a log. -/
def opsOf (log : List (Entry netInterface)) : List (Op ℤ) :=
  log.flatMap fun x => (x.1.op x.2).toList

section Order
variable {s s' : NetState} {c : NetCall} {r : c.Reply} {log : List (Entry netInterface)}

/-- A call that is ready is a step of the protocol, if it is one on sockets. -/
theorem step_of_ready (h : s.Ready c) (hr : s.Fresh c r) {o : Op ℤ} (ho : c.op r = some o) :
    ∃ t, s.table.step o = some t := by
  cases c with
  | socket =>
    rcases r with e | sd <;> cases ho
    exact ⟨_, Table.step_socket hr⟩
  | setV6only | close => cases ho; exact ⟨_, if_neg h⟩
  | bind | listen | connect | sendto | write | read | shutdown => cases ho; exact ⟨_, if_pos h⟩
  | accept sd =>
    rcases r with e | ⟨conn, addr⟩ <;> cases ho
    · exact ⟨_, Table.step_accept_none h⟩
    · exact ⟨_, Table.step_accept h hr⟩
  | inetPton | ifNametoindex | getaddrinfo | freeaddrinfo | getnameinfo | stdout | stderr =>
    cases ho

theorem conforms_next (h : s.Ready c) (hr : s.Fresh c r) :
    Conforms s.table (c.op r).toList (s.next c r).table := by
  show Conforms s.table (c.op r).toList (((c.op r).bind s.table.step).getD s.table)
  cases ho : c.op r with
  | none => exact .nil _
  | some o =>
    obtain ⟨t, ht⟩ := step_of_ready h hr ho
    show Conforms s.table [o] ((s.table.step o).getD s.table)
    rw [ht]
    exact .single ht

/-- **A program that keeps the contract calls its sockets in order.** -/
theorem conforms_of_kept (h : Run net.Kept s log s') (hg : Run net.Granted s log s') :
    Conforms s.table (opsOf log) s'.table := by
  induction h with
  | nil => exact .nil _
  | @cons s m s' x log hs hr ih =>
    cases hg with
    | cons hs' hg =>
      obtain ⟨hready, rfl⟩ := hs
      obtain ⟨hfresh, rfl⟩ := hs'
      exact (conforms_next hready hfresh).append (ih hg)

end Order

/-! ## Messages -/

/-- The texts for the values of `errno`, and for the codes of `getaddrinfo()`. -/
structure Texts where
  strerror : ℕ → String
  gaiStrerror : ℤ → String

/-- What a program says of a call that has failed. -/
def report (name verdict : String) (code : ℤ) (text : String) : String :=
  "Error: " ++ name ++ "()" ++ verdict ++ toString code ++ " - " ++ text ++ "\n"

/-- The message for an address list that is too long. -/
def moreThanOne : String :=
  "Error: getaddrinfo() fails with more than one address info. Expected is only one.\n"

section Checks
variable {ε α : Type} (x : Texts) (name : String)

/-- The result of a call, or the message that it has failed. -/
def orReport (verdict : String) (code : ε → ℤ) (text : ε → String) (r : Except ε α) :
    Except String α :=
  r.mapError fun e => report name verdict (code e) (text e)

/-- The message with the value of `errno`. -/
def byErrno : Except ℕ α → Except String α :=
  orReport name " fails with errno=" Int.ofNat x.strerror

/-- The message with the code that `getaddrinfo()` has returned. -/
def byCode : Except ℤ α → Except String α :=
  orReport name " fails with code=" id x.gaiStrerror

end Checks

/-- A program that expects one address says so if there are more. -/
def expectOne (res : AddrinfoList) : NetProg Unit :=
  if res.aiNext = [] then .done () else .call (.stderr moreThanOne) fun _ => .stop (.exit 1)

/-! ## Checked calls -/

/-- The message names the call. -/
def Names (name message : String) : Prop := ∃ rest, message = "Error: " ++ name ++ "()" ++ rest

/-- A check finds out whether a call has failed, and has a message that names the call. -/
structure Checks {α : Type} (c : NetCall) (check : c.Reply → Except String α) : Prop where
  ok : ∀ r a, check r = .ok a → c.fails r = false
  error : ∀ r message, check r = .error message → c.fails r = true ∧ Names c.name message

theorem names_report (name verdict : String) (code : ℤ) (text : String) :
    Names name (report name verdict code text) := by
  refine ⟨verdict ++ toString code ++ " - " ++ text ++ "\n", ?_⟩
  unfold report
  simp only [String.append_assoc]

/-- What the messages report is what has failed. -/
theorem checks_orReport {ε α : Type} {c : NetCall} (view : c.Reply → Except ε α)
    (hview : ∀ r, c.fails r = isError (view r)) (verdict : String) (code : ε → ℤ)
    (text : ε → String) : Checks c fun r => orReport c.name verdict code text (view r) := by
  constructor
  · intro r a hr
    rw [hview]
    cases hv : view r with
    | ok => rfl
    | error e =>
      rw [hv] at hr
      cases hr
  · intro r message hr
    rw [hview]
    cases hv : view r with
    | ok =>
      rw [hv] at hr
      cases hr
    | error e =>
      rw [hv] at hr
      cases hr
      exact ⟨rfl, names_report _ _ _ _⟩

theorem orReport_eq_ok {ε α : Type} {name verdict : String} {code : ε → ℤ} {text : ε → String}
    {r : Except ε α} {a : α} : orReport name verdict code text r = .ok a ↔ r = .ok a := by
  cases r with
  | ok b =>
    constructor <;> intro h <;> cases h <;> rfl
  | error e =>
    constructor <;> intro h <;> cases h

/-- The call writes to `stdout` or `stderr`. -/
def NetCall.prints : NetCall → Bool
  | .stdout _ | .stderr _ => true
  | _ => false

/-- One call has failed, and the only message names it; or there are too many addresses, and
the only message says so. -/
def Reported (s : NetState) : Prop :=
  (∃ name message, s.failed = [name] ∧ s.messages = [message] ∧ Names name message) ∨
    s.failed = [] ∧ s.messages = [moreThanOne]

/-- One socket is open. -/
def one (sd : ℤ) (phase : Phase) : Table ℤ := Function.update Table.empty sd (some phase)

/-- Nothing has gone wrong, and nothing is sent or printed yet.  The calls of `known` have been
made. -/
structure At (t : Table ℤ) (n : ℕ) (known : List (Entry netInterface)) (s : NetState) : Prop where
  table : s.table = t
  lists : s.lists = n
  failed : s.failed = []
  messages : s.messages = []
  datagrams : s.datagrams = []
  output : s.output = []
  known : known ⊆ s.log

/-- The program has ended because something has gone wrong, before it has sent or printed
anything, and has said so. -/
structure GivenUp (e : NetExit) (s : NetState) : Prop where
  exit : e = .exit 1
  reported : Reported s
  datagrams : s.datagrams = []
  output : s.output = []

section Checked
variable {α : Type} {s : NetState} {c : NetCall} {check : c.Reply → Except String α}
  {t t' : Table ℤ} {n n' : ℕ} {known : List (Entry netInterface)} {Q : α → NetState → Prop}
  {E : NetExit → NetState → Prop}

theorem at_init : At Table.empty 0 [] .init :=
  ⟨rfl, rfl, rfl, rfl, rfl, rfl, List.nil_subset _⟩

theorem next_messages (hc : c.prints = false) (r : c.Reply) :
    (s.next c r).messages = s.messages := by
  cases c with
  | stdout | stderr => cases hc
  | _ => rfl

theorem next_output (hc : c.prints = false) (r : c.Reply) : (s.next c r).output = s.output := by
  cases c with
  | stdout | stderr => cases hc
  | _ => rfl

theorem next_failed (r : c.Reply) :
    (s.next c r).failed = if c.fails r then c.name :: s.failed else s.failed := rfl

theorem mem_next_failed {r : c.Reply} {name : String} : name ∈ (s.next c r).failed ↔
    (c.fails r = true ∧ name = c.name) ∨ name ∈ s.failed := by
  rw [next_failed]
  by_cases hr : c.fails r = true
  · rw [if_pos hr, List.mem_cons]
    exact or_congr_left (and_iff_right hr).symm
  · rw [if_neg hr]
    exact (or_iff_right fun h => hr h.1).symm

/-- The table behind a `close()`. -/
theorem next_close_table {sd : ℤ} (hopen : s.table sd ≠ none) (r : Except ℕ Unit) :
    (s.next (.close sd) r).table = Function.update s.table sd none := by
  show (s.table.step (.close sd)).getD s.table = _
  rw [Table.step_close hopen]
  rfl

/-- A datagram that could not be sent is none. -/
theorem nextDatagrams_of_fails {r : c.Reply} (hr : c.fails r = true) :
    s.nextDatagrams c r = s.datagrams := by
  cases c with
  | sendto =>
    rcases r with e | k
    · rfl
    · cases hr
  | _ => rfl

/-- A call that succeeds. -/
theorem At.next (h : At t n known s) (hc : c.prints = false) {r : c.Reply} (hr : c.fails r = false)
    (htable : s.nextTable c r = t') (hlists : s.nextLists c r = n')
    (hdatagrams : s.nextDatagrams c r = []) : At t' n' (⟨c, r⟩ :: known) (s.next c r) where
  table := htable
  lists := hlists
  failed := by rw [next_failed, if_neg (by simp [hr]), h.failed]
  messages := by rw [next_messages hc, h.messages]
  datagrams := hdatagrams
  output := by rw [next_output hc, h.output]
  known := List.cons_subset_cons _ h.known

/-- The same, where it does not matter what it has returned. -/
theorem At.pass (h : At t n known s) (hc : c.prints = false) {r : c.Reply}
    (hr : c.fails r = false) (htable : s.nextTable c r = t') (hlists : s.nextLists c r = n')
    (hdatagrams : s.nextDatagrams c r = []) : At t' n' known (s.next c r) :=
  { h.next hc hr htable hlists hdatagrams with known := List.subset_cons_of_subset _ h.known }

/-- A call that fails, and the message about it. -/
theorem At.givenUp (h : At t n known s) (hc : c.prints = false) (hcheck : Checks c check)
    {r : c.Reply} {message : String} (hr : check r = .error message) :
    GivenUp (.exit 1) ((s.next c r).next (.stderr message) ()) := by
  obtain ⟨hfails, hnames⟩ := hcheck.error r message hr
  refine ⟨rfl, Or.inl ⟨c.name, message, ?_, ?_, hnames⟩, ?_, ?_⟩
  · show (s.next c r).failed = [c.name]
    rw [next_failed, if_pos hfails, h.failed]
  · show message :: (s.next c r).messages = [message]
    rw [next_messages hc, h.messages]
  · show s.nextDatagrams c r = []
    rw [nextDatagrams_of_fails hfails, h.datagrams]
  · show (s.next c r).output = []
    rw [next_output hc, h.output]

/-- A checked call under any contract. -/
theorem wp_attempt_of {σ : Type} {C : Contract netInterface σ} {Q : α → σ → Prop}
    {E : NetExit → σ → Prop} {s : σ} (hreq : C.requires s c)
    (hok : ∀ r a, C.assumes s c r → check r = .ok a → Q a (C.next s c r))
    (herror : ∀ r message, check r = .error message →
      Prog.wp C Q E (.call (.stderr message) fun _ => .stop (.exit 1)) (C.next s c r)) :
    (attempt c check).wp C Q E s := by
  refine ⟨hreq, fun r hr => ?_⟩
  show Prog.wp C Q E (match check r with | .ok a => _ | .error message => _) _
  cases hcheck : check r with
  | ok a => exact hok r a hr hcheck
  | error message => exact herror r message hcheck

/-- **A checked call** that is in order: the program goes on with its result, or gives up. -/
theorem wp_attempt (h : At t n known s) (hc : c.prints = false) (hcheck : Checks c check)
    (hready : s.Ready c)
    (hok : ∀ r a, s.Fresh c r → check r = .ok a → Q a (s.next c r)) :
    (attempt c check).wp net Q GivenUp s :=
  wp_attempt_of hready hok fun _ _ herror => ⟨trivial, fun _ _ => h.givenUp hc hcheck herror⟩

theorem wp_perform {Q : Unit → NetState → Prop} (hready : s.Ready c)
    (hnext : ∀ r, s.Fresh c r → Q () (s.next c r)) : (perform c).wp net Q E s :=
  ⟨hready, hnext⟩

theorem wp_expectOne {Q : Unit → NetState → Prop} {res : AddrinfoList} (h : At t n known s)
    (hok : Q () s) : (expectOne res).wp net Q GivenUp s := by
  unfold expectOne
  by_cases hres : res.aiNext = []
  · rw [if_pos hres]
    exact hok
  · rw [if_neg hres]
    refine ⟨trivial, fun _ _ => ⟨rfl, Or.inr ⟨h.failed, ?_⟩, h.datagrams, h.output⟩⟩
    exact congrArg (moreThanOne :: ·) h.messages

end Checked

/-! ## The rules of the calls -/

section Rules
variable {α ε : Type} {x : Texts} {s : NetState} {t : Table ℤ} {n : ℕ} {sd : ℤ}
  {known : List (Entry netInterface)}

/-- A call whose result is an `Except`, checked with a message that names it. -/
theorem wp_checked {c : NetCall} {Q : α → NetState → Prop} {verdict : String} {code : ε → ℤ}
    {text : ε → String} (view : c.Reply → Except ε α) (h : At t n known s) (hc : c.prints = false)
    (hview : ∀ r, c.fails r = isError (view r)) (hready : s.Ready c)
    (hok : ∀ r a, s.Fresh c r → view r = .ok a → Q a (s.next c r)) :
    (attempt c fun r => orReport c.name verdict code text (view r)).wp net Q GivenUp s :=
  wp_attempt h hc (checks_orReport view hview verdict code text) hready
    fun r a hr hcheck => hok r a hr (orReport_eq_ok.mp hcheck)

theorem wp_inetPton {family : Family} {Q : family.Addr → NetState → Prop} {src : String}
    {text : ℤ → String} (h : At t n known s)
    (hok : ∀ addr s, At t n (⟨.inetPton family src, .ok addr⟩ :: known) s → Q addr s) :
    (attempt (.inetPton family src) (orReport "inet_pton" " fails with code=" id text)).wp net Q
      GivenUp s := by
  refine wp_checked (c := .inetPton family src) (fun r => r) h rfl (fun _ => rfl) trivial ?_
  rintro r addr - rfl
  exact hok addr _ (h.next rfl rfl h.table h.lists h.datagrams)

theorem wp_ifNametoindex {Q : Word → NetState → Prop} {name : String} (h : At t n known s)
    (hok : ∀ index s, At t n (⟨.ifNametoindex name, .ok index⟩ :: known) s → Q index s) :
    (attempt (.ifNametoindex name) (byErrno x "nametoindex")).wp net Q GivenUp s := by
  refine wp_checked (c := .ifNametoindex name) (fun r => r) h rfl (fun _ => rfl) trivial ?_
  rintro r index - rfl
  exact hok index _ (h.next rfl rfl h.table h.lists h.datagrams)

theorem wp_getaddrinfo {Q : AddrinfoList → NetState → Prop} {node service : Option String}
    {hints : Hints} (h : At t n known s) (hok : ∀ res s, At t (n + 1) known s → Q res s) :
    (attempt (.getaddrinfo node service hints) (byCode x "getaddrinfo")).wp net Q GivenUp s := by
  refine wp_checked (c := .getaddrinfo node service hints) (fun r => r) h rfl (fun _ => rfl)
    trivial ?_
  rintro r res - rfl
  exact hok res _ (h.pass rfl rfl h.table (congrArg (· + 1) h.lists) h.datagrams)

theorem wp_freeaddrinfo {Q : Unit → NetState → Prop} {E : NetExit → NetState → Prop}
    {res : AddrinfoList} (h : At t (n + 1) known s) (hok : ∀ s, At t n known s → Q () s) :
    (perform (.freeaddrinfo res)).wp net Q E s := by
  have hheld : s.Ready (.freeaddrinfo res) := by
    show 0 < s.lists
    rw [h.lists]
    exact Nat.succ_pos n
  refine wp_perform hheld fun r _ => hok _ ?_
  exact h.pass rfl rfl h.table (congrArg (· - 1) h.lists) h.datagrams

theorem wp_socket {Q : ℕ → NetState → Prop} {family : Family} {socktype : SockType} {protocol : ℤ}
    (h : At t n known s) (hok : ∀ sd : ℕ, t sd = none →
      ∀ s, At (Function.update t sd (some .created)) n known s → Q sd s) :
    (attempt (.socket family socktype protocol) (byErrno x "socket")).wp net Q GivenUp s := by
  refine wp_checked (c := .socket family socktype protocol) (fun r => r) h rfl (fun _ => rfl)
    trivial ?_
  rintro r sd hfresh rfl
  have hfree : s.table sd = none := hfresh
  refine hok sd (h.table ▸ hfree) _ (h.pass rfl rfl ?_ h.lists h.datagrams)
  show (s.table.step (.socket (sd : ℤ))).getD s.table = _
  rw [Table.step_socket hfree, h.table]
  rfl

theorem wp_setV6only {Q : Unit → NetState → Prop} {on : Bool} {verdict : String} {code : ℕ → ℤ}
    {text : ℕ → String} (h : At t n known s) (hopen : t sd ≠ none)
    (hok : ∀ s, At t n known s → Q () s) :
    (attempt (.setV6only sd on) (orReport "setsockopt" verdict code text)).wp net Q GivenUp s := by
  have hopen : s.table sd ≠ none := h.table ▸ hopen
  refine wp_checked (c := .setV6only sd on) (fun r => r) h rfl (fun _ => rfl) hopen ?_
  rintro r u - rfl
  refine hok _ (h.pass rfl rfl ?_ h.lists h.datagrams)
  show (s.table.step (.configure sd)).getD s.table = t
  rw [Table.step_configure hopen]
  exact h.table

theorem wp_bindTo {Q : Unit → NetState → Prop} {addr : Sockaddr} (h : At t n known s)
    (hcreated : t sd = some .created)
    (hok : ∀ s, At (Function.update t sd (some .bound)) n known s → Q () s) :
    (attempt (.bind sd addr) (byErrno x "bind")).wp net Q GivenUp s := by
  have hcreated : s.table sd = some .created := h.table ▸ hcreated
  refine wp_checked (c := .bind sd addr) (fun r => r) h rfl (fun _ => rfl) hcreated ?_
  rintro r u - rfl
  refine hok _ (h.pass rfl rfl ?_ h.lists h.datagrams)
  show (s.table.step (.bind sd true)).getD s.table = _
  rw [Table.step_bind hcreated, h.table]
  rfl

theorem wp_listen {Q : Unit → NetState → Prop} (h : At t n known s) (hbound : t sd = some .bound)
    (hok : ∀ s, At (Function.update t sd (some .listening)) n known s → Q () s) :
    (attempt (.listen sd) (byErrno x "listen")).wp net Q GivenUp s := by
  have hbound : s.table sd = some .bound := h.table ▸ hbound
  refine wp_checked (c := .listen sd) (fun r => r) h rfl (fun _ => rfl) hbound ?_
  rintro r u - rfl
  refine hok _ (h.pass rfl rfl ?_ h.lists h.datagrams)
  show (s.table.step (.listen sd true)).getD s.table = _
  rw [Table.step_listen hbound, h.table]
  rfl

theorem wp_accept {Q : ℕ × Sockaddr → NetState → Prop} (h : At t n known s)
    (hlistening : t sd = some .listening) (hok : ∀ (conn : ℕ) (addr : Sockaddr), t conn = none →
      ∀ s, At (Function.update t conn (some .connected)) n (⟨.accept sd, .ok (conn, addr)⟩ :: known) s →
        Q (conn, addr) s) :
    (attempt (.accept sd) (byErrno x "accept")).wp net Q GivenUp s := by
  have hlistening : s.table sd = some .listening := h.table ▸ hlistening
  refine wp_checked (c := .accept sd) (fun r => r) h rfl (fun _ => rfl) hlistening ?_
  rintro r ⟨conn, addr⟩ hfresh rfl
  have hfree : s.table conn = none := hfresh
  refine hok conn addr (h.table ▸ hfree) _ (h.next rfl rfl ?_ h.lists h.datagrams)
  show (s.table.step (.accept sd (some (conn : ℤ)))).getD s.table = _
  rw [Table.step_accept hlistening hfree, h.table]
  rfl

end Rules

end SimpleTests.Net
