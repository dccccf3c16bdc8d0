import SimpleTests.NetCalls

/-! # Sending to the SSDP multicast groups

`multicast/send_ssdp_ipv4.cpp` and `multicast/send_ssdp_ipv6.cpp` are one program with two
groups (`Group`), except that on macOS the second one asks for a scope id first.

In every run the program keeps to its contract, and either sends the one datagram to the group,
returns 0 and has nothing left, or says which call has failed, sends nothing and ends with 1
(`sendSsdp_runs`).  What the group's address is, `inet_pton()` says.
-/
namespace SimpleTests.Net
open Transition CallPrograms SocketProtocol Sockets CStrings

/-- Where an address and a port are. -/
def Family.endpoint : (family : Family) → family.Addr → NetShort → Endpoint
  | .inet, addr, port => .inet addr port
  | .inet6, addr, port => .inet6 addr port

/-- A multicast group. -/
structure Group where
  family : Family
  text : String
  /-- The scope id of the interface `en0` is put into the address. -/
  withScope : Bool
  /-- The destination, for an address and a scope id. -/
  dest : family.Addr → Word → Sockaddr
  endpoint_dest : ∀ addr scopeId,
    (dest addr scopeId).endpoint = family.endpoint addr (htons 1900)

/-- `239.255.255.250:1900` -/
def mcastGroup4 : Group where
  family := .inet
  text := "239.255.255.250"
  withScope := false
  dest addr _ := .inet ⟨htons 1900, addr⟩
  endpoint_dest _ _ := rfl

/-- `[ff02::c]:1900`, with a scope id on macOS. -/
def mcastGroup6 (apple : Bool) : Group where
  family := .inet6
  text := "ff02::c"
  withScope := apple
  dest addr scopeId := .inet6 ⟨htons 1900, ⟨0, 0, 0, 0⟩, addr, scopeId⟩
  endpoint_dest _ _ := rfl

/-- The group's address. -/
def Group.address (g : Group) : NetProg g.family.Addr :=
  attempt (.inetPton g.family g.text)
    (orReport "inet_pton" " fails with code=" id
      fun _ => "no valid network address or address family given.")

/-- The scope id of the destination. -/
def Group.scopeId (g : Group) (x : Texts) : NetProg Word :=
  if g.withScope then attempt (.ifNametoindex "en0") (byErrno x "nametoindex")
  else .done ⟨0, 0, 0, 0⟩

/-- `"Hello world"` with its NUL. -/
def hello : List UInt8 := literal "Hello world" ++ [0]

/-- `main()` -/
def sendSsdp (g : Group) (x : Texts) : NetProg ℤ := do
  let addr ← g.address
  let scopeId ← g.scopeId x
  let hints : Hints :=
    { passive := true, numericHost := true, numericServ := true, v4mapped := false
      aiFamily := g.family, aiSocktype := .dgram }
  let res ← attempt (.getaddrinfo none (some "1900") hints) (byCode x "getaddrinfo")
  expectOne res
  let sockfd ← attempt
    (.socket res.head.aiFamily res.head.aiSocktype res.head.aiProtocol) (byErrno x "socket")
  attempt (.bind sockfd res.head.aiAddr) (byErrno x "bind")
  perform (.freeaddrinfo res)
  let _ ← attempt (.sendto sockfd hello (g.dest addr scopeId)) (byErrno x "sendto")
  perform (.close sockfd)
  perform (.stdout [.text "Works!\n"])
  return 0

/-- `scopeId` is what the scope id of the destination has to be, by what the calls of `log` have
returned. -/
def Group.Scoped (g : Group) (log : List (Entry netInterface)) (scopeId : Word) : Prop :=
  if g.withScope then ⟨.ifNametoindex "en0", .ok scopeId⟩ ∈ log else scopeId = ⟨0, 0, 0, 0⟩

/-- The datagram is sent to the address that `inet_pton()` has for the group, and nothing is
left.  The result of `close()` is not looked at. -/
structure Sent (g : Group) (s : NetState) : Prop where
  table : s.table = Table.empty
  lists : s.lists = 0
  failed : ∀ name ∈ s.failed, name = "close"
  messages : s.messages = []
  datagram : ∃ addr scopeId, ⟨.inetPton g.family g.text, .ok addr⟩ ∈ s.log ∧
    g.Scoped s.log scopeId ∧ s.datagrams = [(hello, g.dest addr scopeId)] ∧
    (g.dest addr scopeId).endpoint = g.family.endpoint addr (htons 1900)
  output : s.output = [[.text "Works!\n"]]

variable {g : Group} {x : Texts} {s : NetState} {t : Table ℤ} {n : ℕ}
  {known log : List (Entry netInterface)}

theorem Group.Scoped.mono {scopeId : Word} (h : g.Scoped known scopeId) (hlog : known ⊆ log) :
    g.Scoped log scopeId := by
  unfold Group.Scoped at h ⊢
  by_cases hscope : g.withScope = true
  · rw [if_pos hscope] at h ⊢
    exact hlog h
  · rw [if_neg hscope] at h ⊢
    exact h

theorem wp_scopeId {Q : Word → NetState → Prop} (h : At t n known s)
    (hok : ∀ scopeId known' s, g.Scoped known' scopeId → known ⊆ known' → At t n known' s →
      Q scopeId s) : (g.scopeId x).wp net Q GivenUp s := by
  unfold Group.scopeId
  by_cases hscope : g.withScope = true
  · rw [if_pos hscope]
    refine wp_ifNametoindex h fun scopeId s hs => hok scopeId _ s ?_ (List.subset_cons_self ..) hs
    rw [Group.Scoped, if_pos hscope]
    exact List.mem_cons_self
  · rw [if_neg hscope]
    refine hok _ known s ?_ (List.Subset.refl _) h
    rw [Group.Scoped, if_neg hscope]

/-- The end of the program: one datagram, and everything is given back. -/
theorem wp_send {sd : ℤ} (addr : g.family.Addr) (scopeId : Word) (h : At (one sd .bound) 0 known s)
    (haddr : ⟨.inetPton g.family g.text, .ok addr⟩ ∈ known) (hscope : g.Scoped known scopeId) :
    (do let _ ← attempt (.sendto sd hello (g.dest addr scopeId)) (byErrno x "sendto")
        perform (.close sd)
        perform (.stdout [.text "Works!\n"])
        return 0 : NetProg ℤ).wp net (fun status s => status = 0 ∧ Sent g s) GivenUp s := by
  generalize hdest : g.dest addr scopeId = dest
  have hbound : s.table sd = some .bound := by
    rw [h.table]
    exact Function.update_self ..
  refine (Prog.wp_bind net).mpr ?_
  refine wp_checked (c := .sendto sd hello dest) (fun r => r) h rfl (fun _ => rfl) (Or.inr hbound) ?_
  rintro r k - rfl
  -- the socket is as it was
  have htable : (s.next (.sendto sd hello dest) (.ok k)).table = one sd .bound := by
    show (s.table.step (.datagram sd)).getD s.table = _
    rw [Table.step_datagram (Or.inr hbound)]
    exact h.table
  have hopen : (s.next (.sendto sd hello dest) (.ok k)).table sd ≠ none := by
    rw [htable]
    simp [one]
  refine (Prog.wp_bind net).mpr (wp_perform hopen fun r _ => ?_)
  refine (Prog.wp_bind net).mpr (wp_perform trivial fun _ _ => ⟨rfl, ?_⟩)
  -- what is known of the calls before is still known
  have hlog : known ⊆ (((s.next (.sendto sd hello dest) (.ok k)).next (.close sd) r).next
      (.stdout [.text "Works!\n"]) ()).log := fun _ hx =>
    List.mem_cons_of_mem _ (List.mem_cons_of_mem _ (List.mem_cons_of_mem _ (h.known hx)))
  refine ⟨?_, h.lists, fun name hname => ?_, h.messages,
    ⟨addr, scopeId, hlog haddr, hscope.mono hlog, ?_, g.endpoint_dest addr scopeId⟩,
    congrArg ([Piece.text "Works!\n"] :: ·) h.output⟩
  · show ((s.next (.sendto sd hello dest) (.ok k)).next (.close sd) r).table = _
    rw [next_close_table hopen, htable, one, Function.update_idem]
    exact Function.update_eq_self sd (Table.empty : Table ℤ)
  · -- only `close()` can have failed
    rcases mem_next_failed.mp hname with ⟨hr, -⟩ | hname
    · cases hr
    rcases mem_next_failed.mp hname with ⟨-, hclose⟩ | hname
    · exact hclose
    rcases mem_next_failed.mp hname with ⟨hr, -⟩ | hname
    · cases hr
    · rw [h.failed] at hname
      exact absurd hname List.not_mem_nil
  · rw [hdest]
    exact congrArg ((hello, dest) :: ·) h.datagrams

theorem wp_sendSsdp :
    (sendSsdp g x).wp net (fun status s => status = 0 ∧ Sent g s) GivenUp .init := by
  unfold sendSsdp
  refine (Prog.wp_bind net).mpr (wp_inetPton at_init fun addr s h => ?_)
  refine (Prog.wp_bind net).mpr (wp_scopeId h fun scopeId known s hscope hknown h => ?_)
  refine (Prog.wp_bind net).mpr (wp_getaddrinfo h fun res s h => ?_)
  refine (Prog.wp_bind net).mpr (wp_expectOne h ?_)
  refine (Prog.wp_bind net).mpr (wp_socket h fun sd _ s h => ?_)
  refine (Prog.wp_bind net).mpr (wp_bindTo h (Function.update_self ..) fun s h => ?_)
  rw [Function.update_idem] at h
  refine (Prog.wp_bind net).mpr (wp_freeaddrinfo h fun s h => ?_)
  exact wp_send addr scopeId h (hknown List.mem_cons_self) hscope

/-- **Every run of the two programs**, also one that has not ended: the calls on sockets are
in order, and the address list is freed while it is held.  A run that returns has returned 0,
has sent the greeting once, to port 1900 of the address that `inet_pton()` has given for the
group, with the scope id that `if_nametoindex()` has given where one is asked for, has printed
`Works!` and no error, and has left no socket open and no address list.  A run that ends early
ends with 1, has sent and printed nothing, and its only message names the only call that has
failed, or tells of too many addresses. -/
theorem sendSsdp_runs {log : List (Entry netInterface)} {e : Ending NetExit ℤ}
    (hruns : (sendSsdp g x).Runs log e) (hlog : Run net.Granted .init log s) :
    Run net.Kept .init log s ∧ Conforms Table.empty (opsOf log) s.table ∧
      e.Meets (fun status => status = 0 ∧ Sent g s) (GivenUp · s) := by
  obtain ⟨hkept, hend⟩ := hruns.keeps wp_sendSsdp hlog
  exact ⟨hkept, conforms_of_kept hkept hlog, hend⟩

/-- The IPv4 program, where every call succeeds. -/
def helloRun : List (Entry netInterface) :=
  ((sendSsdp mcastGroup4 ⟨toString, toString⟩).under obliging).1

theorem runs_helloRun :
    (sendSsdp mcastGroup4 ⟨toString, toString⟩).Runs helloRun (.done 0) :=
  Prog.runs_under (I := netInterface) obliging _

theorem granted_helloRun : Run net.Granted .init helloRun (net.after .init helloRun) :=
  Contract.run_granted
    ⟨trivial, trivial, rfl, trivial, trivial, trivial, trivial, trivial, trivial⟩

theorem sendSsdp_runs_hello :
    Run net.Kept .init helloRun (net.after .init helloRun) ∧
      Conforms Table.empty (opsOf helloRun) (net.after .init helloRun).table ∧
      ((0 : ℤ) = 0 ∧ Sent mcastGroup4 (net.after .init helloRun)) ∧
      (net.after .init helloRun).datagrams =
        [(hello, .inet ⟨htons 1900, ⟨239, 255, 255, 250⟩⟩)] := by
  obtain ⟨hkept, hconforms, hend⟩ := sendSsdp_runs runs_helloRun granted_helloRun
  exact ⟨hkept, hconforms, hend, rfl⟩

end SimpleTests.Net
