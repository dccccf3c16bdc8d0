import SimpleTests.NetCalls
import Mathlib.Data.UInt

/-! # Programs that do not look at their results

`tests/connect_write.cpp` and `tests/sendto_loopback.cpp` make their calls one after the other,
and look at the result of one of them alone.  If `socket()` has failed they go on with the
descriptor -1.

`lenient` is what they keep to all the same: a call is in order, or it is one on -1 that
transfers nothing.  The kernel refuses these.  So the other calls are in the order of the
protocol (`conforms_of_lenient`).
-/
namespace SimpleTests.Net
open Transition CallPrograms SocketProtocol Sockets CStrings

/-- The descriptor that a call is on. -/
def NetCall.on : NetCall → Option ℤ
  | .setV6only sd _ | .bind sd _ | .listen sd | .accept sd | .connect sd _ | .sendto sd _ _
  | .write sd _ | .read sd _ | .shutdown sd | .close sd => some sd
  | .inetPton .. | .ifNametoindex _ | .getaddrinfo .. | .freeaddrinfo _ | .getnameinfo _
  | .socket .. | .stdout _ | .stderr _ => none

/-- The calls on a connection. -/
def NetCall.transfers : NetCall → Bool
  | .write .. | .read .. | .shutdown _ => true
  | _ => false

/-- A call on the descriptor of a `socket()` that has failed. -/
structure NetCall.Void (c : NetCall) : Prop where
  on : c.on = some (-1)
  transfers : c.transfers = false

/-- **The contract of a program that does not look at its descriptor.** -/
def lenient : Contract netInterface NetState where
  requires s c := s.Ready c ∨ c.Void
  assumes s c r := s.Fresh c r ∧ (c.on = some (-1) → c.fails r = true)
  next s c r := s.next c r

section Order
variable {s s' : NetState} {c : NetCall} {r : c.Reply} {sd : ℤ}
  {log : List (Entry netInterface)}

/-- The call on sockets is on the descriptor of the call. -/
theorem on_of_op {o : Op ℤ} (ho : c.op r = some o) (hon : c.on = some sd) : o.on = some sd := by
  cases c with
  | accept =>
    cases hon
    rcases r with e | ⟨conn, addr⟩ <;> cases ho <;> rfl
  | setV6only | bind | listen | connect | sendto | write | read | shutdown | close =>
    cases hon
    cases ho
    rfl
  | inetPton | ifNametoindex | getaddrinfo | freeaddrinfo | getnameinfo | socket | stdout
  | stderr => cases hon

/-- A call on a descriptor that is not open changes nothing. -/
theorem nextTable_of_closed (h : s.table sd = none) (hon : c.on = some sd) :
    s.nextTable c r = s.table := by
  rw [NetState.nextTable]
  cases ho : c.op r with
  | none => rfl
  | some o =>
    rw [Option.bind_some, Table.step_eq_none (on_of_op ho hon) h]
    rfl

/-- The kernel returns no negative descriptors. -/
theorem nextTable_neg_one (h : s.table (-1) = none) : s.nextTable c r (-1) = none := by
  rw [NetState.nextTable]
  cases ho : c.op r with
  | none => exact h
  | some o =>
    have hopens : ∀ k, o.opens = some k → k ≠ -1 := by
      intro k hk
      cases c with
      | socket =>
        rcases r with e | sd <;> cases ho
        cases hk
        omega
      | accept =>
        rcases r with e | ⟨conn, addr⟩ <;> cases ho <;> cases hk
        omega
      | setV6only | bind | listen | connect | sendto | write | read | shutdown | close =>
        cases ho
        cases hk
      | inetPton | ifNametoindex | getaddrinfo | freeaddrinfo | getnameinfo | stdout | stderr =>
        cases ho
    rw [Option.bind_some]
    cases hstep : s.table.step o with
    | none => exact h
    | some t => exact Table.step_closed hstep h hopens

/-- **The calls on open descriptors are in order.** -/
theorem conforms_of_lenient (h : Run lenient.Kept s log s') (hg : Run lenient.Granted s log s')
    (hnone : s.table (-1) = none) :
    Conforms s.table (opsOf (log.filter fun x => x.1.on ≠ some (-1))) s'.table := by
  induction h with
  | nil => exact .nil _
  | @cons s m s' x log hs hr ih =>
    cases hg with
    | cons hs' hg =>
      obtain ⟨hready, rfl⟩ := hs
      obtain ⟨⟨hfresh, -⟩, rfl⟩ := hs'
      have hrest := ih hg (nextTable_neg_one hnone)
      by_cases hon : x.1.on = some (-1)
      · rw [List.filter_cons_of_neg (by simpa using hon)]
        have htable : (s.next x.1 x.2).table = s.table := nextTable_of_closed hnone hon
        exact htable ▸ hrest
      · rw [List.filter_cons_of_pos (by simpa using hon)]
        have hready : s.Ready x.1 := hready.resolve_right fun hvoid => hon hvoid.on
        exact (conforms_next hready hfresh).append hrest

end Order

/-! ## Connecting from an IPv4-mapped address -/

/-- What `socket()` returns. -/
def descriptorOf : Except ℕ ℕ → ℤ
  | .ok sd => sd
  | .error _ => -1

/-- The address that `inet_pton()` has filled in; it is zero before. -/
def addrOf : Except ℤ In6Addr → In6Addr
  | .ok addr => addr
  | .error _ => anyAddr

/-- `char loc_addr[]` -/
def locAddr : String := "::ffff:192.168.24.88"

/-- `wbuf`, without its NUL -/
def wbuf : List UInt8 := literal "GET / HTTP/1.1\r\nHost: example.com\r\n\r\n"

/-- `sizeof(rbuf)` -/
def rbufSize : ℕ := 2048

/-- What is in `rbuf` behind `read()`, as a C string.  The buffer is zero before. -/
def rbufString : Except ℕ { data : List UInt8 // data.length ≤ rbufSize - 1 } →
    Option (List UInt8)
  | .ok data => cString (overwrite data.1 (List.replicate rbufSize 0))
  | .error _ => cString (List.replicate rbufSize 0)

/-- The message that there is no connection. -/
def noConnection (x : Texts) (errno : ℕ) : String :=
  "Error(" ++ toString errno ++ ") with ::connect() from local \"[" ++ locAddr ++ "]\" - " ++
    x.strerror errno ++ "\n"

def successful : String := "Successful ::connect() from local \"[" ++ locAddr ++ "]\"\n"

def dashes : String := "---------------\n"

/-- `hints` -/
def mappedHints : Hints where
  passive := false
  numericHost := false
  numericServ := false
  v4mapped := true
  aiFamily := .inet6
  aiSocktype := .stream

/-- What is done with a connection. -/
def fetch (sockfd : ℤ) : NetProg ℤ := do
  perform (.write sockfd wbuf)
  let rbuf ← (.call (.read sockfd (rbufSize - 1)) fun r => .done (rbufString r) : NetProg _)
  perform (.stdout [.text dashes, .cstr rbuf, .text dashes])
  perform (.shutdown sockfd)
  perform (.close sockfd)
  perform (.stdout [.text successful])
  return 0

/-- `main()` of `tests/connect_write.cpp` -/
def connectWrite (x : Texts) : NetProg ℤ := do
  let sockfd ← (.call (.socket .inet6 .stream 0) fun r => .done (descriptorOf r) : NetProg _)
  let addr ← (.call (.inetPton .inet6 locAddr) fun r => .done (addrOf r) : NetProg _)
  perform (.bind sockfd (.inet6 ⟨htons 0, ⟨0, 0, 0, 0⟩, addr, ⟨0, 0, 0, 0⟩⟩))
  .call (.getaddrinfo (some "example.com") (some "http") mappedHints) fun
    -- the null pointer that `res` still is is read
    | .error _ => .stop .undefined
    | .ok res => .call (.connect sockfd res.head.aiAddr) fun
      | .error errno => do
        perform (.stderr (noConnection x errno))
        perform (.close sockfd)
        return 1
      | .ok _ => fetch sockfd

/-- Port 50000 of an address, which is `[::1]` if `inet_pton()` has not failed. -/
def loopback (addr : In6Addr) : Sockaddr :=
  .inet6 ⟨htons 50000, ⟨0, 0, 0, 0⟩, addr, ⟨0, 0, 0, 0⟩⟩

/-- `buf`, without its NUL -/
def shutDown : List UInt8 := literal "ShutDown"

/-- The line about the result of `sendto()`. -/
def toldOf : Except ℕ ℕ → String
  | .error errno => "sendto errno=" ++ toString errno ++ "\n"
  | .ok ret => "ret=" ++ toString ret ++ "\n"

/-- `main()` of `tests/sendto_loopback.cpp` -/
def sendtoLoopback : NetProg ℤ := do
  let sock ← (.call (.socket .inet6 .dgram 0) fun r => .done (descriptorOf r) : NetProg _)
  let addr ← (.call (.inetPton .inet6 "::1") fun r => .done (addrOf r) : NetProg _)
  let told ← (.call (.sendto sock shutDown (loopback addr)) fun r => .done (toldOf r) : NetProg _)
  perform (.stderr told)
  return 0

/-! ### What is left behind -/

/-- What `read()` has delivered has been printed, and the socket is closed.  The list of its
addresses has not been given back. -/
structure Fetched (s : NetState) : Prop where
  table : s.table = Table.empty
  lists : s.lists = 1
  failed : ∀ name ∈ s.failed, name ∉ ["socket", "getaddrinfo", "connect"]
  messages : s.messages = []
  output : ∃ sd r answer, ⟨.read sd (rbufSize - 1), r⟩ ∈ s.log ∧ rbufString r = some answer ∧
    answer.length < rbufSize ∧
    s.output = [[.text successful], [.text dashes, .cstr (some answer), .text dashes]]

/-- There is no connection, and the message says why.  The list of the addresses has not been
given back. -/
structure NotConnected (x : Texts) (s : NetState) : Prop where
  table : s.table = Table.empty
  lists : s.lists = 1
  failed : "connect" ∈ s.failed ∧ "getaddrinfo" ∉ s.failed
  messages : ∃ sd addr errno, ⟨.connect sd addr, .error errno⟩ ∈ s.log ∧
    s.messages = [noConnection x errno]
  output : s.output = []

/-- The name of the host has not been resolved. -/
structure NotResolved (s : NetState) : Prop where
  lists : s.lists = 0
  failed : "getaddrinfo" ∈ s.failed ∧ "connect" ∉ s.failed
  messages : s.messages = []
  output : s.output = []

/-- How the first program ends. -/
def ConnectEnds (x : Texts) (status : ℤ) (s : NetState) : Prop :=
  (status = 0 ∧ Fetched s) ∨ (status = 1 ∧ NotConnected x s)

/-- One datagram of eight bytes has been sent to the address that is there for `::1`, or it has
not, and the program has told what `sendto()` has returned. -/
inductive Told (s : NetState) : Prop
  | sent (sock : ℤ) (r : Except ℤ In6Addr) (ret : ℕ)
      (address : ⟨.inetPton .inet6 "::1", r⟩ ∈ s.log)
      (reply : ⟨.sendto sock shutDown (loopback (addrOf r)), .ok ret⟩ ∈ s.log)
      (failed : "sendto" ∉ s.failed)
      (datagrams : s.datagrams = [(shutDown, loopback (addrOf r))])
      (messages : s.messages = [toldOf (.ok ret)])
  | refused (sock : ℤ) (r : Except ℤ In6Addr) (errno : ℕ)
      (address : ⟨.inetPton .inet6 "::1", r⟩ ∈ s.log)
      (reply : ⟨.sendto sock shutDown (loopback (addrOf r)), .error errno⟩ ∈ s.log)
      (failed : "sendto" ∈ s.failed) (datagrams : s.datagrams = [])
      (messages : s.messages = [toldOf (.error errno)])

/-- How the second program ends.  Its socket is open if there is one. -/
structure LoopbackEnds (status : ℤ) (s : NetState) : Prop where
  status : status = 0
  table : s.table = Table.empty ∧ "socket" ∈ s.failed ∨
    (∃ sd, s.table = one sd .created) ∧ "socket" ∉ s.failed
  told : Told s
  output : s.output = []

/-- Calls have been made of which no result was looked at; `names` are those that may have
failed. -/
structure Quiet (t : Table ℤ) (n : ℕ) (names : List String) (s : NetState) : Prop where
  table : s.table = t
  lists : s.lists = n
  failed : ∀ name ∈ s.failed, name ∈ names
  messages : s.messages = []
  datagrams : s.datagrams = []
  output : s.output = []

section Runs
variable {s : NetState} {c : NetCall} {t t' : Table ℤ} {n n' : ℕ} {names : List String} {x : Texts}

theorem quiet_init : Quiet Table.empty 0 [] .init :=
  ⟨rfl, rfl, fun _ h => absurd h List.not_mem_nil, rfl, rfl, rfl⟩

theorem Quiet.next (h : Quiet t n names s) (hc : c.prints = false) {r : c.Reply}
    {names' : List String} (htable : s.nextTable c r = t') (hlists : s.nextLists c r = n')
    (hdatagrams : s.nextDatagrams c r = s.datagrams) (hname : c.fails r = true → c.name ∈ names')
    (hnames : names ⊆ names') : Quiet t' n' names' (s.next c r) where
  table := htable
  lists := hlists
  failed name hmem := by
    rcases mem_next_failed.mp hmem with ⟨hr, rfl⟩ | hmem
    · exact hname hr
    · exact hnames (h.failed name hmem)
  messages := by rw [next_messages hc, h.messages]
  datagrams := hdatagrams.trans h.datagrams
  output := by rw [next_output hc, h.output]

/-- `sd` is what `socket()` has returned, and the socket is in a phase if there is one. -/
inductive Begun (sd : ℤ) (phase : Phase) (n : ℕ) (s : NetState) : Prop
  | failed (hsd : sd = -1) (hsocket : "socket" ∈ s.failed)
      (h : Quiet Table.empty n ["socket", "inet_pton", "bind"] s)
  | made (hsd : sd ≠ -1) (h : Quiet (one sd phase) n ["inet_pton", "bind"] s)

theorem table_one {sd : ℤ} {phase : Phase} : one sd phase sd = some phase := Function.update_self ..

theorem Begun.quiet {sd : ℤ} {phase : Phase} (h : Begun sd phase n s) :
    ∃ t, Quiet t n ["socket", "inet_pton", "bind"] s := by
  cases h with
  | failed hsd hsocket h => exact ⟨_, h⟩
  | made hsd h =>
    exact ⟨_, h.table, h.lists, fun name hname => List.mem_cons_of_mem _ (h.failed name hname),
      h.messages, h.datagrams, h.output⟩

/-- A call on the descriptor is in order, or there is none. -/
theorem Begun.requires {sd : ℤ} {phase : Phase} (h : Begun sd phase n s) (hon : c.on = some sd)
    (htransfers : c.transfers = false) (hready : s.table sd = some phase → s.Ready c) :
    s.Ready c ∨ c.Void := by
  cases h with
  | failed hsd hsocket h => exact .inr ⟨hsd ▸ hon, htransfers⟩
  | made hsd h => exact .inl (hready (h.table ▸ table_one))

/-- A call that does not touch the socket. -/
theorem Begun.next {sd : ℤ} {phase : Phase} (h : Begun sd phase n s) (hc : c.prints = false)
    {r : c.Reply} (htable : s.nextTable c r = s.table) (hlists : s.nextLists c r = n')
    (hdatagrams : s.nextDatagrams c r = s.datagrams)
    (hname : c.fails r = true → c.name ∈ ["inet_pton", "bind"]) :
    Begun sd phase n' (s.next c r) := by
  cases h with
  | failed hsd hsocket h =>
    exact .failed hsd (mem_next_failed.mpr (.inr hsocket))
      (h.next hc (htable.trans h.table) hlists hdatagrams
      (fun hr => List.mem_cons_of_mem _ (hname hr)) fun _ => id)
  | made hsd h =>
    exact .made hsd (h.next hc (htable.trans h.table) hlists hdatagrams hname fun _ => id)

theorem begun_socket {socktype : SockType} (r : Except ℕ ℕ) :
    Begun (descriptorOf r) .created 0 (NetState.init.next (.socket .inet6 socktype 0) r) := by
  cases r with
  | error e => exact .failed rfl List.mem_cons_self (quiet_init.next rfl rfl rfl rfl
      (fun _ => show "socket" ∈ ["socket", "inet_pton", "bind"] by decide) (by simp))
  | ok sd =>
    refine .made (by show (sd : ℤ) ≠ -1; omega)
      (quiet_init.next rfl ?_ rfl rfl (fun hr => by cases hr) (by simp))
    show (NetState.init.table.step (.socket (sd : ℤ))).getD NetState.init.table = _
    rw [Table.step_socket rfl]
    rfl

theorem begun_bind {sd : ℤ} (addr : Sockaddr) (h : Begun sd .created n s) (r : Except ℕ Unit) :
    ∃ phase, (phase = .created ∨ phase = .bound) ∧ Begun sd phase n (s.next (.bind sd addr) r) := by
  cases h with
  | failed hsd hsocket h =>
    refine ⟨.created, .inl rfl, .failed hsd (mem_next_failed.mpr (.inr hsocket)) ?_⟩
    have hclosed : s.table sd = none := by rw [h.table]; rfl
    exact h.next rfl ((nextTable_of_closed hclosed rfl).trans h.table) h.lists rfl
      (fun _ => show "bind" ∈ ["socket", "inet_pton", "bind"] by decide) fun _ => id
  | made hsd h =>
    have hstep := Table.step_bind (t := s.table) (h.table ▸ table_one) (!isError r)
    refine ⟨if isError r then .created else .bound, by cases isError r <;> simp, .made hsd ?_⟩
    refine h.next rfl ?_ h.lists rfl
      (fun _ => show "bind" ∈ ["inet_pton", "bind"] by decide) fun _ => id
    show (s.table.step (.bind sd (!isError r))).getD s.table = _
    rw [hstep, h.table]
    cases isError r with
    | true => rfl
    | false => exact Function.update_idem ..

/-- What is printed is a string inside of the buffer. -/
theorem rbufString_eq_some (r : Except ℕ { data : List UInt8 // data.length ≤ rbufSize - 1 }) :
    ∃ answer, rbufString r = some answer ∧ answer.length < rbufSize := by
  have hstring : ∀ data : List UInt8, data.length < rbufSize →
      ∃ answer, cString (overwrite data (List.replicate rbufSize 0)) = some answer ∧
        answer.length < rbufSize := by
    intro data hlen
    have hnul : 0 ∈ overwrite data (List.replicate rbufSize 0) := by
      rw [overwrite, List.drop_replicate]
      refine List.mem_append_right _ (List.mem_replicate.mpr ⟨?_, rfl⟩)
      omega
    have hsome : cString (overwrite data (List.replicate rbufSize 0)) ≠ none :=
      fun hnone => cString_eq_none_iff.mp hnone hnul
    obtain ⟨answer, hanswer⟩ := Option.ne_none_iff_exists'.mp hsome
    refine ⟨answer, hanswer, ?_⟩
    have hlt := length_lt_of_cString hanswer
    rw [length_overwrite, List.length_replicate] at hlt
    omega
  cases r with
  | ok data => exact hstring data.1 (by have := data.2; unfold rbufSize at *; omega)
  | error e => exact hstring [] (by decide)

/-- A call on a connection, which stays one. -/
theorem wp_transfer {α : Type} {Q : α → NetState → Prop} {E : NetExit → NetState → Prop} {sd : ℤ}
    {k : c.Reply → NetProg α} (h : Quiet (one sd .connected) n names s) (hc : c.prints = false)
    (hop : ∀ r, c.op r = some (.transfer sd)) (hready : s.table sd = some .connected → s.Ready c)
    (hlists : ∀ r, s.nextLists c r = s.lists) (hdatagrams : ∀ r, s.nextDatagrams c r = s.datagrams)
    (hk : ∀ r s, Quiet (one sd .connected) n (c.name :: names) s → ⟨c, r⟩ ∈ s.log →
      (k r).wp lenient Q E s) :
    Prog.wp lenient Q E (.call c k) s := by
  have hconn : s.table sd = some .connected := h.table ▸ table_one
  refine ⟨.inl (hready hconn), fun r _ => hk r _ ?_ List.mem_cons_self⟩
  refine h.next hc ?_ ((hlists r).trans h.lists) (hdatagrams r) (fun _ => List.mem_cons_self)
    (List.subset_cons_self ..)
  rw [NetState.nextTable, hop, Option.bind_some, Table.step_transfer hconn]
  exact h.table

theorem wp_fetch {E : NetExit → NetState → Prop} {sd : ℤ}
    (h : Quiet (one sd .connected) 1 ["inet_pton", "bind"] s) :
    (fetch sd).wp lenient (ConnectEnds x) E s := by
  refine (Prog.wp_bind lenient).mpr
    (wp_transfer h rfl (fun _ => rfl) id (fun _ => rfl) (fun _ => rfl) fun _ s h _ => ?_)
  refine (Prog.wp_bind lenient).mpr
    (wp_transfer h rfl (fun _ => rfl) id (fun _ => rfl) (fun _ => rfl) fun r s h hread => ?_)
  obtain ⟨answer, hanswer, hlen⟩ := rbufString_eq_some r
  have hconn : s.table sd = some .connected := h.table ▸ table_one
  refine (Prog.wp_bind lenient).mpr ⟨.inl trivial, fun _ _ => ?_⟩
  refine (Prog.wp_bind lenient).mpr ⟨.inl hconn, fun r' _ => ?_⟩
  -- the connection is as it was
  have htable : ((s.next (.stdout [.text dashes, .cstr (rbufString r), .text dashes]) ()).next
      (.shutdown sd) r').table = one sd .connected := by
    show (s.table.step (.transfer sd)).getD s.table = _
    rw [Table.step_transfer hconn]
    exact h.table
  have hopen : ((s.next (.stdout [.text dashes, .cstr (rbufString r), .text dashes]) ()).next
      (.shutdown sd) r').table sd ≠ none := by
    rw [htable, table_one]
    exact nofun
  refine (Prog.wp_bind lenient).mpr ⟨.inl hopen, fun r'' _ => ?_⟩
  refine (Prog.wp_bind lenient).mpr ⟨.inl trivial, fun _ _ => .inl ⟨rfl, ?_⟩⟩
  have hlog := List.mem_cons_of_mem ⟨.shutdown sd, r'⟩ (List.mem_cons_of_mem
    ⟨.stdout [.text dashes, .cstr (rbufString r), .text dashes], ()⟩ hread)
  refine ⟨?_, h.lists, fun name hname => ?_, h.messages, sd, r, answer,
    List.mem_cons_of_mem _ (List.mem_cons_of_mem _ hlog), hanswer, hlen, ?_⟩
  · show (((s.next (.stdout [.text dashes, .cstr (rbufString r), .text dashes]) ()).next
      (.shutdown sd) r').next (.close sd) r'').table = _
    rw [next_close_table hopen, htable, one, Function.update_idem]
    exact Function.update_eq_self sd (Table.empty : Table ℤ)
  · -- only calls on the connection have failed, and those before `connect()`
    rcases mem_next_failed.mp hname with ⟨hr, -⟩ | hname
    · cases hr
    rcases mem_next_failed.mp hname with ⟨-, rfl⟩ | hname
    · exact (by decide : "close" ∉ ["socket", "getaddrinfo", "connect"])
    rcases mem_next_failed.mp hname with ⟨-, rfl⟩ | hname
    · exact (by decide : "shutdown" ∉ ["socket", "getaddrinfo", "connect"])
    rcases mem_next_failed.mp hname with ⟨hr, -⟩ | hname
    · cases hr
    · have hquiet := h.failed name hname
      simp only [NetCall.name, List.mem_cons, List.not_mem_nil, or_false] at hquiet
      rcases hquiet with rfl | rfl | rfl | rfl <;> decide
  · show [.text successful] :: [.text dashes, .cstr (rbufString r), .text dashes] :: s.output = _
    rw [hanswer, h.output]

/-- The socket as `connect()` leaves it. -/
theorem nextTable_connect {sd : ℤ} {phase : Phase} (addr : Sockaddr) (h : Begun sd phase n s)
    (hphase : phase = .created ∨ phase = .bound) (errno : ℕ) :
    s.nextTable (.connect sd addr) (.error errno) = s.table := by
  cases h with
  | failed hsd hsocket h =>
    have hclosed : s.table sd = none := by rw [h.table]; rfl
    exact nextTable_of_closed hclosed rfl
  | made hsd h =>
    have hready : s.table sd = some .created ∨ s.table sd = some .bound := by
      rw [h.table, table_one]
      simpa using hphase
    show (s.table.step (.connect sd false)).getD s.table = _
    rw [Table.step_connect hready]
    rfl

/-- The socket is closed, if there is one. -/
theorem nextTable_close {sd : ℤ} {phase : Phase} (h : Begun sd phase n s) {s' : NetState}
    (htable : s'.table = s.table) (r : Except ℕ Unit) :
    (s'.next (.close sd) r).table = Table.empty := by
  cases h with
  | failed hsd hsocket h =>
    have hclosed : s'.table sd = none := by rw [htable, h.table]; rfl
    exact (nextTable_of_closed (c := .close sd) hclosed rfl).trans (htable.trans h.table)
  | made hsd h =>
    have hopen : s'.table sd ≠ none := by
      rw [htable, h.table, table_one]
      exact nofun
    rw [next_close_table hopen, htable, h.table, one, Function.update_idem]
    exact Function.update_eq_self sd (Table.empty : Table ℤ)

/-- The message is printed, and the socket is closed if there is one. -/
theorem wp_notConnected {E : NetExit → NetState → Prop} {sd : ℤ} {phase : Phase} {addr : Sockaddr}
    {errno : ℕ} (h : Begun sd phase 1 s) (hphase : phase = .created ∨ phase = .bound) :
    (do perform (.stderr (noConnection x errno))
        perform (.close sd)
        return 1 : NetProg ℤ).wp lenient (ConnectEnds x) E
      (s.next (.connect sd addr) (.error errno)) := by
  have htable := nextTable_connect addr h hphase errno
  obtain ⟨t, hquiet⟩ := h.quiet
  refine (Prog.wp_bind lenient).mpr ⟨.inl trivial, fun _ _ => ?_⟩
  refine (Prog.wp_bind lenient).mpr ⟨?_, fun r _ => .inr ⟨rfl, ?_⟩⟩
  · cases h with
    | failed hsd hsocket h => exact .inr ⟨hsd ▸ rfl, rfl⟩
    | made hsd h =>
      left
      show (s.nextTable (.connect sd addr) (.error errno)) sd ≠ none
      rw [htable, h.table, table_one]
      exact nofun
  · refine ⟨nextTable_close h htable r, hquiet.lists, ⟨?_, fun hmem => ?_⟩,
      ⟨sd, addr, errno, ?_, congrArg (_ :: ·) hquiet.messages⟩, hquiet.output⟩
    · exact mem_next_failed.mpr (.inr (mem_next_failed.mpr (.inr (mem_next_failed.mpr
        (.inl ⟨rfl, rfl⟩)))))
    · -- neither here nor before
      rcases mem_next_failed.mp hmem with ⟨-, hclose⟩ | hmem
      · exact absurd hclose (by decide : "getaddrinfo" ≠ "close")
      rcases mem_next_failed.mp hmem with ⟨hr, -⟩ | hmem
      · cases hr
      rcases mem_next_failed.mp hmem with ⟨-, hconnect⟩ | hmem
      · exact absurd hconnect (by decide : "getaddrinfo" ≠ "connect")
      · exact absurd (hquiet.failed _ hmem) (by decide)
    · exact List.mem_cons_of_mem _ (List.mem_cons_of_mem _ List.mem_cons_self)

section Beginning
variable {α : Type} {Q : α → NetState → Prop} {E : NetExit → NetState → Prop} {sd : ℤ}
  {phase : Phase}

theorem wp_begun_socket {socktype : SockType} {Q : ℤ → NetState → Prop}
    (hk : ∀ sd s, Begun sd .created 0 s → Q sd s) :
    Prog.wp lenient Q E (.call (.socket .inet6 socktype 0) fun r => .done (descriptorOf r)) .init :=
  ⟨.inl trivial, fun r _ => hk _ _ (begun_socket r)⟩

theorem wp_begun_inetPton {src : String} {Q : In6Addr → NetState → Prop} (h : Begun sd phase n s)
    (hk : ∀ r s, Begun sd phase n s → ⟨.inetPton .inet6 src, r⟩ ∈ s.log → Q (addrOf r) s) :
    Prog.wp lenient Q E (.call (.inetPton .inet6 src) fun r => .done (addrOf r)) s := by
  obtain ⟨t, hquiet⟩ := h.quiet
  exact ⟨.inl trivial,
    fun r _ => hk r _ (h.next rfl rfl hquiet.lists rfl fun _ => List.mem_cons_self)
      List.mem_cons_self⟩

theorem wp_begun_bind {addr : Sockaddr} {Q : Unit → NetState → Prop} (h : Begun sd .created n s)
    (hk : ∀ phase s, (phase = .created ∨ phase = .bound) → Begun sd phase n s → Q () s) :
    (perform (.bind sd addr)).wp lenient Q E s := by
  refine ⟨h.requires rfl rfl id, fun r _ => ?_⟩
  obtain ⟨phase, hphase, h⟩ := begun_bind addr h r
  exact hk phase _ hphase h

end Beginning

theorem notResolved {sd : ℤ} {phase : Phase} (h : Begun sd phase 0 s)
    {node service : Option String} {hints : Hints} (code : ℤ) :
    NotResolved (s.next (.getaddrinfo node service hints) (.error code)) := by
  obtain ⟨t, hquiet⟩ := h.quiet
  refine ⟨hquiet.lists, ⟨mem_next_failed.mpr (.inl ⟨rfl, rfl⟩), fun hmem => ?_⟩, hquiet.messages,
    hquiet.output⟩
  rcases mem_next_failed.mp hmem with ⟨-, heq⟩ | hmem
  · exact absurd heq (by decide : "connect" ≠ "getaddrinfo")
  · exact absurd (hquiet.failed _ hmem) (by decide)

theorem begun_getaddrinfo {sd : ℤ} {phase : Phase} {node service : Option String} {hints : Hints}
    (h : Begun sd phase 0 s) (res : AddrinfoList) :
    Begun sd phase 1 (s.next (.getaddrinfo node service hints) (.ok res)) := by
  obtain ⟨t, hquiet⟩ := h.quiet
  exact h.next rfl rfl (congrArg (· + 1) hquiet.lists) rfl fun hfails => by cases hfails

/-- A descriptor that has been connected is one. -/
theorem begun_connect {sd : ℤ} {phase : Phase} {addr : Sockaddr} (h : Begun sd phase 1 s)
    (hphase : phase = .created ∨ phase = .bound)
    (hr : (NetCall.connect sd addr).on = some (-1) → isError (.ok () : Except ℕ Unit) = true) :
    Quiet (one sd .connected) 1 ["inet_pton", "bind"] (s.next (.connect sd addr) (.ok ())) := by
  cases h with
  | failed hsd hsocket h => exact absurd (hr (hsd ▸ rfl)) (by decide)
  | made hsd h =>
    have hready : s.table sd = some .created ∨ s.table sd = some .bound := by
      rw [h.table, table_one]
      simpa using hphase
    refine h.next rfl ?_ h.lists rfl (fun hfails => by cases hfails) fun _ => id
    show (s.table.step (.connect sd true)).getD s.table = _
    rw [Table.step_connect hready, h.table]
    exact Function.update_idem ..

theorem wp_connectWrite : (connectWrite x).wp lenient (ConnectEnds x)
    (fun e s => e = .undefined ∧ NotResolved s) .init := by
  unfold connectWrite
  refine (Prog.wp_bind lenient).mpr (wp_begun_socket fun sd s h => ?_)
  refine (Prog.wp_bind lenient).mpr (wp_begun_inetPton h fun _ s h _ => ?_)
  refine (Prog.wp_bind lenient).mpr (wp_begun_bind h fun phase s hphase h => ?_)
  refine ⟨.inl trivial, fun res _ => ?_⟩
  cases res with
  | error code => exact ⟨rfl, notResolved h code⟩
  | ok res =>
    obtain ⟨t, hquiet⟩ := h.quiet
    replace h : Begun sd phase 1
        (s.next (.getaddrinfo (some "example.com") (some "http") mappedHints) (.ok res)) :=
      begun_getaddrinfo h res
    refine ⟨h.requires rfl rfl fun htable => ?_, fun r hr => ?_⟩
    · rcases hphase with rfl | rfl
      · exact .inl htable
      · exact .inr htable
    · cases r with
      | error errno => exact wp_notConnected h hphase
      | ok u => exact wp_fetch (begun_connect h hphase hr.2)

/-- **Every run of the program**: whatever fails, a call is in order or it is on -1 and
transfers nothing, and the calls on the socket are in the order of the protocol.  The program
returns 0 if and only if it was connected; what it has printed is what `read()` has delivered, as a
string inside of its buffer.  If it could not connect it says so, with the `errno` of `connect()`,
and returns 1; that is also what becomes of a `socket()` that
has failed.  If the name has no address, a null pointer is read.  The socket is closed whenever
the program returns, and the list of the addresses is never given back. -/
theorem connectWrite_runs {log : List (Entry netInterface)} {e : Ending NetExit ℤ}
    (hruns : (connectWrite x).Runs log e) (hlog : Run lenient.Granted .init log s) :
    Run lenient.Kept .init log s ∧
      Conforms Table.empty (opsOf (log.filter fun x => x.1.on ≠ some (-1))) s.table ∧
      e.Meets (ConnectEnds x · s) (fun e => e = .undefined ∧ NotResolved s) := by
  obtain ⟨hkept, hend⟩ := hruns.keeps wp_connectWrite hlog
  exact ⟨hkept, conforms_of_lenient hkept hlog rfl, hend⟩

/-- Nothing goes well but for the name of the host. -/
def refusing : (c : NetCall) → c.Reply
  | .getaddrinfo .. => .ok ⟨⟨.inet6, .stream, 6, .inet ⟨⟨0, 80⟩, ⟨0, 0, 0, 0⟩⟩⟩, []⟩
  | .inetPton .. | .getnameinfo _ => .error (-1)
  | .ifNametoindex _ | .socket .. | .accept _ | .setV6only .. | .bind .. | .listen _
  | .connect .. | .shutdown _ | .close _ | .sendto .. | .write .. | .read .. => .error 9
  | .freeaddrinfo _ | .stdout _ | .stderr _ => ()

def refusedRun : List (Entry netInterface) := ((connectWrite ⟨toString, toString⟩).under refusing).1

theorem runs_refusedRun : (connectWrite ⟨toString, toString⟩).Runs refusedRun (.done 1) :=
  Prog.runs_under (I := netInterface) refusing _

theorem granted_refusedRun : Run lenient.Granted .init refusedRun (lenient.after .init refusedRun) :=
  Contract.run_granted ⟨⟨trivial, fun _ => rfl⟩, ⟨trivial, fun _ => rfl⟩, ⟨trivial, fun _ => rfl⟩,
    ⟨trivial, nofun⟩, ⟨trivial, fun _ => rfl⟩, ⟨trivial, nofun⟩, ⟨trivial, fun _ => rfl⟩, trivial⟩

theorem connectWrite_runs_refused :
    Run lenient.Kept .init refusedRun (lenient.after .init refusedRun) ∧
      Conforms Table.empty (opsOf (refusedRun.filter fun x => x.1.on ≠ some (-1)))
        (lenient.after .init refusedRun).table ∧
      ConnectEnds ⟨toString, toString⟩ 1 (lenient.after .init refusedRun) :=
  connectWrite_runs runs_refusedRun granted_refusedRun

theorem wp_sendtoLoopback : sendtoLoopback.wp lenient LoopbackEnds (fun _ _ => False) .init := by
  unfold sendtoLoopback
  refine (Prog.wp_bind lenient).mpr (wp_begun_socket fun sd s h => ?_)
  refine (Prog.wp_bind lenient).mpr (wp_begun_inetPton h fun a s h haddr => ?_)
  obtain ⟨t, hquiet⟩ := h.quiet
  have hunsent : "sendto" ∉ s.failed := fun hmem => absurd (hquiet.failed _ hmem) (by decide)
  refine (Prog.wp_bind lenient).mpr ⟨h.requires rfl rfl .inl, fun r _ => ?_⟩
  refine (Prog.wp_bind lenient).mpr ⟨.inl trivial, fun _ _ => ⟨rfl, ?_, ?_, hquiet.output⟩⟩
  · cases h with
    | failed hsd hsocket h =>
      have hclosed : s.table sd = none := by rw [h.table]; rfl
      have htable := nextTable_of_closed (c := .sendto sd shutDown (loopback (addrOf a)))
        (r := r) hclosed rfl
      exact .inl ⟨htable.trans h.table,
        mem_next_failed.mpr (.inr (mem_next_failed.mpr (.inr hsocket)))⟩
    | made hsd h =>
      refine .inr ⟨⟨sd, ?_⟩, fun hmem => ?_⟩
      · show (s.table.step (.datagram sd)).getD s.table = _
        rw [Table.step_datagram (.inl (h.table ▸ table_one))]
        exact h.table
      · rcases mem_next_failed.mp hmem with ⟨hfails, -⟩ | hmem
        · cases hfails
        rcases mem_next_failed.mp hmem with ⟨-, heq⟩ | hmem
        · exact absurd heq (by decide : "socket" ≠ "sendto")
        · exact absurd (h.failed _ hmem) (by decide)
  · have hasked := List.mem_cons_of_mem ⟨.sendto sd shutDown (loopback (addrOf a)), r⟩ haddr
    cases r with
    | error errno =>
      refine .refused sd a errno (List.mem_cons_of_mem _ hasked)
        (List.mem_cons_of_mem _ List.mem_cons_self) ?_ hquiet.datagrams
        (congrArg (_ :: ·) hquiet.messages)
      exact mem_next_failed.mpr (.inr (mem_next_failed.mpr (.inl ⟨rfl, rfl⟩)))
    | ok ret =>
      refine .sent sd a ret (List.mem_cons_of_mem _ hasked)
        (List.mem_cons_of_mem _ List.mem_cons_self) (fun hmem => ?_)
        (congrArg (_ :: ·) hquiet.datagrams) (congrArg (_ :: ·) hquiet.messages)
      rcases mem_next_failed.mp hmem with ⟨hfails, -⟩ | hmem
      · cases hfails
      rcases mem_next_failed.mp hmem with ⟨hfails, -⟩ | hmem
      · cases hfails
      · exact hunsent hmem

/-- **Every run of the second program** returns 0, whatever fails: it has sent the eight bytes,
once, if and only if `sendto()` has not failed, and has told what that has returned.  They go to
port 50000 of the address that `inet_pton()` has for `::1`, and of `::` if it has failed.  The
socket is never closed. -/
theorem sendtoLoopback_runs {log : List (Entry netInterface)} {e : Ending NetExit ℤ}
    (hruns : sendtoLoopback.Runs log e) (hlog : Run lenient.Granted .init log s) :
    Run lenient.Kept .init log s ∧
      Conforms Table.empty (opsOf (log.filter fun x => x.1.on ≠ some (-1))) s.table ∧
      e.Meets (LoopbackEnds · s) fun _ => False := by
  obtain ⟨hkept, hend⟩ := hruns.keeps wp_sendtoLoopback hlog
  exact ⟨hkept, conforms_of_lenient hkept hlog rfl, hend⟩

/-- The second program, where every call succeeds. -/
def loopbackRun : List (Entry netInterface) := (sendtoLoopback.under obliging).1

theorem runs_loopbackRun : sendtoLoopback.Runs loopbackRun (.done 0) :=
  Prog.runs_under (I := netInterface) obliging _

theorem granted_loopbackRun :
    Run lenient.Granted .init loopbackRun (lenient.after .init loopbackRun) :=
  Contract.run_granted
    ⟨⟨rfl, nofun⟩, ⟨trivial, nofun⟩, ⟨trivial, nofun⟩, ⟨trivial, nofun⟩, trivial⟩

theorem sendtoLoopback_runs_obliging :
    Run lenient.Kept .init loopbackRun (lenient.after .init loopbackRun) ∧
      Conforms Table.empty (opsOf (loopbackRun.filter fun x => x.1.on ≠ some (-1)))
        (lenient.after .init loopbackRun).table ∧
      LoopbackEnds 0 (lenient.after .init loopbackRun) ∧
      (lenient.after .init loopbackRun).datagrams = [(shutDown,
        loopback ⟨⟨#[0, 0, 0, 0, 0, 0, 0, 0, 0, 0, 0, 0, 0, 0, 0, 1], rfl⟩⟩)] := by
  obtain ⟨hkept, hconforms, hend⟩ := sendtoLoopback_runs runs_loopbackRun granted_loopbackRun
  exact ⟨hkept, hconforms, hend, rfl⟩

end Runs

end SimpleTests.Net
