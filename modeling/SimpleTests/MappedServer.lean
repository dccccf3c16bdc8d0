import SimpleTests.NetCalls

/-! # A server for IPv4 and IPv6 clients

`main()` of `sockets/ipv4_mapped_ipv6_server.cpp` listens on an IPv6 socket for clients of
both families and shows the address of the first one.

In every run the program keeps to its contract, and either has shown its client, by the name that
`getnameinfo()` has for the address that `accept()` has delivered, and given everything back, or
says which call has failed (`mappedServer_runs`).  The exception is
`getnameinfo()`: its result is not looked at, and if it has failed, the two buffers that are
printed were never written.  `bind()` is not called before `IPV6_V6ONLY` is off
(`mappedServer_dual`), so that IPv4 clients are heard at all.
-/
namespace SimpleTests.Net
open Transition CallPrograms SocketProtocol Sockets

/-- The message for a call without a port. -/
def mappedUsage (argv0 : String) : String :=
  "Usage:   " ++ argv0 ++ " <port>\nExample: " ++ argv0 ++ " 50000\n" ++
    "Then you can use 'nc (netcat)' on a remote client to establish a connection,\n" ++
    "e.g.: nc 192.168.24.88 50000\n"

/-- `char addrStr[INET6_ADDRSTRLEN]` and `char servStr[NI_MAXSERV]`, as `getnameinfo()` leaves
them.  They have no initialiser. -/
def nameOf : Except ℤ (List UInt8 × List UInt8) → Option (List UInt8) × Option (List UInt8)
  | .ok (addrStr, servStr) => (some addrStr, some servStr)
  | .error _ => (none, none)

/-- The line about the client. -/
def remoteLine (name : Option (List UInt8) × Option (List UInt8)) : List Piece :=
  [.text "Remote IP address is \"[", .cstr name.1, .text "]:", .cstr name.2, .text "\".\n"]

/-- What is done with a client. -/
def showRemote (sfd remoteSfd : ℤ) (remoteSa : Sockaddr) : NetProg ℤ := do
  let name ← (.call (.getnameinfo remoteSa) fun r => .done (nameOf r) : NetProg _)
  perform (.stdout (remoteLine name))
  perform (.close remoteSfd)
  perform (.close sfd)
  return 0

/-- `main()` -/
def mappedServer (x : Texts) : List String → NetProg ℤ
  | [] => .stop .undefined
  | [argv0] => do
    perform (.stderr (mappedUsage argv0))
    return -1
  | _ :: port :: _ => do
    let hints : Hints :=
      { passive := true, numericHost := true, numericServ := true, v4mapped := false
        aiFamily := .inet6, aiSocktype := .stream }
    let res ← attempt (.getaddrinfo none (some port) hints) (byCode x "getaddrinfo")
    expectOne res
    let sfd ← attempt
      (.socket res.head.aiFamily res.head.aiSocktype res.head.aiProtocol) (byErrno x "socket")
    attempt (.setV6only sfd false)
      (orReport "setsockopt" " IPV6_V6ONLY fails with code=" (fun _ => -1) x.strerror)
    attempt (.bind sfd res.head.aiAddr) (byErrno x "bind")
    perform (.freeaddrinfo res)
    attempt (.listen sfd) (byErrno x "listen")
    let remote ← attempt (.accept sfd) (byErrno x "accept")
    showRemote sfd remote.1 remote.2

variable {x : Texts} {s : NetState} {argv : List String} {known : List (Entry netInterface)}

/-- The client has been shown, and nothing is left. -/
structure Shown (s : NetState) : Prop where
  table : s.table = Table.empty
  lists : s.lists = 0
  messages : s.messages = []
  failed : ∀ name ∈ s.failed, name = "getnameinfo" ∨ name = "close"
  /-- What is printed is the name of the client that has been accepted, unless there is none. -/
  output : ∃ sfd conn addr r, ⟨.accept sfd, .ok (conn, addr)⟩ ∈ s.log ∧
    ⟨.getnameinfo addr, r⟩ ∈ s.log ∧ s.output = [remoteLine (nameOf r)] ∧
    (isError r = true ↔ "getnameinfo" ∈ s.failed)

/-- The ways in which the program returns.  Without a port the message is all it has done. -/
def ServerDone (argv : List String) (status : ℤ) (s : NetState) : Prop :=
  if argv.length < 2 then
    status = -1 ∧ ∃ argv0, argv = [argv0] ∧ s = NetState.init.next (.stderr (mappedUsage argv0)) ()
  else status = 0 ∧ Shown s

/-- The ways in which it ends early. -/
def ServerStopped (argv : List String) (e : NetExit) (s : NetState) : Prop :=
  if argv = [] then e = .undefined ∧ s = .init else GivenUp e s

/-- Nothing changes but the sockets, and `close()` may fail. -/
structure SameBut (t : Table ℤ) (s s' : NetState) : Prop where
  table : s'.table = t
  lists : s'.lists = s.lists
  messages : s'.messages = s.messages
  output : s'.output = s.output
  failed : ∀ name, name ≠ "close" → (name ∈ s'.failed ↔ name ∈ s.failed)
  log : s.log ⊆ s'.log

theorem sameBut_close {sd : ℤ} (hopen : s.table sd ≠ none) (r : Except ℕ Unit) :
    SameBut (Function.update s.table sd none) s (s.next (.close sd) r) where
  table := next_close_table hopen r
  lists := rfl
  messages := rfl
  output := rfl
  failed _ hname := mem_next_failed.trans (or_iff_right fun h => hname h.2)
  log := List.subset_cons_self ..

/-- Both sockets are closed. -/
theorem wp_closeBoth {E : NetExit → NetState → Prop} {sfd conn : ℤ} (hne : sfd ≠ conn)
    (h : s.table = Function.update (one sfd .listening) conn (some .connected)) :
    (do perform (.close conn)
        perform (.close sfd)
        return 0 : NetProg ℤ).wp net (fun status s' => status = 0 ∧ SameBut Table.empty s s') E s := by
  have hconn : s.table conn ≠ none := by simp [h]
  refine (Prog.wp_bind net).mpr (wp_perform hconn fun r _ => ?_)
  have hfirst := sameBut_close hconn r
  generalize s.next (.close conn) r = s₁ at hfirst ⊢
  have hsfd : s₁.table sfd ≠ none := by simp [hfirst.table, h, hne, one]
  refine (Prog.wp_bind net).mpr (wp_perform hsfd fun r' _ => ⟨rfl, ?_⟩)
  have hsecond := sameBut_close hsfd r'
  refine ⟨?_, hsecond.lists.trans hfirst.lists, hsecond.messages.trans hfirst.messages,
    hsecond.output.trans hfirst.output, fun name hname => ?_, List.Subset.trans hfirst.log hsecond.log⟩
  · rw [hsecond.table, hfirst.table, h]
    funext sd
    by_cases hs : sd = sfd
    · simp [hs, Table.empty]
    · by_cases hc : sd = conn <;> simp [hs, hc, one, Table.empty, hne.symm]
  · exact (hsecond.failed name hname).trans (hfirst.failed name hname)

/-- A client is shown, and both sockets are closed. -/
theorem wp_showRemote {E : NetExit → NetState → Prop} {sfd conn : ℤ} {addr : Sockaddr}
    (hne : sfd ≠ conn)
    (h : At (Function.update (one sfd .listening) conn (some .connected)) 0 known s) {remoteSfd : ℕ}
    (haccept : ⟨.accept sfd, .ok (remoteSfd, addr)⟩ ∈ known) :
    (showRemote sfd conn addr).wp net (fun status s => status = 0 ∧ Shown s) E s := by
  unfold showRemote
  refine (Prog.wp_bind net).mpr ⟨trivial, fun r _ => ?_⟩
  refine (Prog.wp_bind net).mpr (wp_perform trivial fun u _ => ?_)
  refine Prog.wp_mono net (wp_closeBoth hne h.table) ?_ fun _ _ h => h
  rintro status s' ⟨hstatus, hs'⟩
  have hlog := hs'.log
  refine ⟨hstatus, hs'.table, hs'.lists.trans h.lists, hs'.messages.trans h.messages, ?_, sfd,
    remoteSfd, addr, r, hlog ?_, hlog ?_, ?_, ?_⟩
  · intro name hname
    by_cases hclose : name = "close"
    · exact Or.inr hclose
    · rcases mem_next_failed.mp (((hs'.failed name hclose).mp hname)) with ⟨hr, -⟩ | hname
      · cases hr
      rcases mem_next_failed.mp hname with ⟨-, hinfo⟩ | hname
      · exact Or.inl hinfo
      · rw [h.failed] at hname
        exact absurd hname List.not_mem_nil
  · exact List.mem_cons_of_mem _ (List.mem_cons_of_mem _ (h.known haccept))
  · exact List.mem_cons_of_mem _ List.mem_cons_self
  · exact hs'.output.trans (congrArg (remoteLine (nameOf r) :: ·) h.output)
  · have hinfo : "getnameinfo" ∈ (s.next (.getnameinfo addr) r).failed ↔
        isError r = true ∧ "getnameinfo" = "getnameinfo" ∨ "getnameinfo" ∈ s.failed :=
      mem_next_failed
    rw [hs'.failed _ (by decide)]
    refine (mem_next_failed.trans (or_iff_right fun hr => ?_)).trans (hinfo.trans ?_) |>.symm
    · cases hr.1
    · simp [h.failed]

theorem wp_mappedServer :
    (mappedServer x argv).wp net (ServerDone argv) (ServerStopped argv) .init := by
  match argv with
  | [] => exact ⟨rfl, rfl⟩
  | [argv0] =>
    refine (Prog.wp_bind net).mpr (wp_perform trivial fun _ _ => ?_)
    exact ⟨rfl, argv0, rfl, rfl⟩
  | _ :: port :: rest =>
    refine Prog.wp_mono net (Q := fun status s => status = 0 ∧ Shown s) (E := GivenUp) ?_ ?_ ?_
    · unfold mappedServer
      refine (Prog.wp_bind net).mpr (wp_getaddrinfo at_init fun res s h => ?_)
      refine (Prog.wp_bind net).mpr (wp_expectOne h ?_)
      refine (Prog.wp_bind net).mpr (wp_socket h fun sfd _ s h => ?_)
      refine (Prog.wp_bind net).mpr (wp_setV6only h (by simp) fun s h => ?_)
      refine (Prog.wp_bind net).mpr (wp_bindTo h (Function.update_self ..) fun s h => ?_)
      rw [Function.update_idem] at h
      refine (Prog.wp_bind net).mpr (wp_freeaddrinfo h fun s h => ?_)
      refine (Prog.wp_bind net).mpr (wp_listen h (Function.update_self ..) fun s h => ?_)
      rw [Function.update_idem] at h
      refine (Prog.wp_bind net).mpr (wp_accept h (Function.update_self ..) ?_)
      intro conn addr hfree s h
      refine wp_showRemote (fun heq => ?_) h List.mem_cons_self
      rw [← heq, Function.update_self] at hfree
      cases hfree
    · intro status s h
      rw [ServerDone, if_neg (by simp)]
      exact h
    · intro e s h
      rw [ServerStopped, if_neg (by simp)]
      exact h

/-! ## Both families -/

/-- A socket is bound when `IPV6_V6ONLY` is off for it. -/
def DualStack (earlier : List (Entry netInterface)) : NetCall → Prop
  | .bind sd _ => ⟨.setV6only sd false, .ok ()⟩ ∈ earlier
  | _ => True

theorem wp_attempt_history {α : Type} {c : NetCall} {check : c.Reply → Except String α}
    {Q : α → List (Entry netInterface) → Prop} {h : List (Entry netInterface)}
    (hbefore : DualStack h c) (hok : ∀ r a, check r = .ok a → Q a (h ++ [⟨c, r⟩])) :
    (attempt c check).wp (history DualStack) Q (fun _ _ => True) h :=
  wp_attempt_of hbefore (fun r a _ => hok r a) fun _ _ _ => ⟨trivial, fun _ _ => trivial⟩

theorem dual_mappedServer :
    (mappedServer x argv).wp (history DualStack) (fun _ _ => True) (fun _ _ => True) [] := by
  match argv with
  | [] => trivial
  | [argv0] => exact ⟨trivial, fun _ _ => trivial⟩
  | _ :: port :: rest =>
    unfold mappedServer
    refine (Prog.wp_bind _).mpr (wp_attempt_history trivial fun _ res _ => ?_)
    refine (Prog.wp_bind _).mpr ?_
    unfold expectOne
    by_cases hres : res.aiNext = []
    · rw [if_pos hres]
      refine (Prog.wp_bind _).mpr (wp_attempt_history trivial fun _ sfd _ => ?_)
      refine (Prog.wp_bind _).mpr (wp_attempt_history trivial fun r u hr => ?_)
      obtain rfl : r = .ok () := orReport_eq_ok.mp hr
      -- the socket that is bound is the one whose option has just been set
      have hdual : ∀ h addr, DualStack (h ++ [⟨.setV6only sfd false, .ok ()⟩]) (.bind sfd addr) :=
        fun h addr => List.mem_append_right h (List.mem_singleton.mpr rfl)
      refine (Prog.wp_bind _).mpr (wp_attempt_history (hdual _ _) fun _ _ _ => ?_)
      refine (Prog.wp_bind _).mpr ⟨trivial, fun _ _ => ?_⟩
      refine (Prog.wp_bind _).mpr (wp_attempt_history trivial fun _ _ _ => ?_)
      refine (Prog.wp_bind _).mpr (wp_attempt_history trivial fun _ _ _ => ?_)
      exact ⟨trivial, fun _ _ => ⟨trivial, fun _ _ => ⟨trivial, fun _ _ => ⟨trivial, fun _ _ =>
        trivial⟩⟩⟩⟩
    · rw [if_neg hres]
      exact ⟨trivial, fun _ _ => trivial⟩

/-- In every run `IPV6_V6ONLY` has been switched off for a socket before it is bound. -/
theorem mappedServer_dual {log earlier later : List (Entry netInterface)} {e : Ending NetExit ℤ}
    {sd : ℤ} {addr : Sockaddr} {r : Except ℕ Unit} (hruns : (mappedServer x argv).Runs log e)
    (hlog : log = earlier ++ ⟨.bind sd addr, r⟩ :: later) :
    ⟨.setV6only sd false, .ok ()⟩ ∈ earlier :=
  hruns.before dual_mappedServer hlog

/-! ## Every run -/

/-- **Every run of the server**: it keeps to its contract, calls its sockets in order, and
binds none that is for IPv6 clients alone.  Without a port the message how it is called is all
it does.  Otherwise, if it returns, it has returned 0, has shown its client, and has left no
socket open and no address list; the line it prints has the name that `getnameinfo()` has for the
address that `accept()` has delivered, exactly if `getnameinfo()` has not failed.  If it ends
early, it has printed no such line, and its only message names the only call that has failed, or
tells of too many addresses. -/
theorem mappedServer_runs {log : List (Entry netInterface)} {e : Ending NetExit ℤ}
    (hruns : (mappedServer x argv).Runs log e) (hlog : Run net.Granted .init log s) :
    Run net.Kept .init log s ∧ Conforms Table.empty (opsOf log) s.table ∧
      (∀ earlier later sd addr r, log = earlier ++ ⟨.bind sd addr, r⟩ :: later →
        ⟨.setV6only sd false, .ok ()⟩ ∈ earlier) ∧
      e.Meets (ServerDone argv · s) (ServerStopped argv · s) := by
  obtain ⟨hkept, hend⟩ := hruns.keeps wp_mappedServer hlog
  exact ⟨hkept, conforms_of_kept hkept hlog, fun _ _ _ _ _ => mappedServer_dual hruns, hend⟩

/-- The server on port 50000, where every call succeeds. -/
def visitRun : List (Entry netInterface) :=
  ((mappedServer ⟨toString, toString⟩ ["server", "50000"]).under obliging).1

theorem runs_visitRun :
    (mappedServer ⟨toString, toString⟩ ["server", "50000"]).Runs visitRun (.done 0) :=
  Prog.runs_under (I := netInterface) obliging _

theorem granted_visitRun : Run net.Granted .init visitRun (net.after .init visitRun) :=
  Contract.run_granted
    ⟨trivial, rfl, trivial, trivial, trivial, trivial, rfl, trivial, trivial, trivial, trivial,
      trivial⟩

theorem mappedServer_runs_visit :
    Run net.Kept .init visitRun (net.after .init visitRun) ∧
      Conforms Table.empty (opsOf visitRun) (net.after .init visitRun).table ∧
      (∀ earlier later sd addr r, visitRun = earlier ++ ⟨.bind sd addr, r⟩ :: later →
        ⟨.setV6only sd false, .ok ()⟩ ∈ earlier) ∧
      ServerDone ["server", "50000"] 0 (net.after .init visitRun) ∧
      (net.after .init visitRun).output = [remoteLine
        (some (CStrings.literal "::ffff:127.0.0.1"), some (CStrings.literal "40000"))] := by
  obtain ⟨hkept, hconforms, hdual, hend⟩ := mappedServer_runs runs_visitRun granted_visitRun
  exact ⟨hkept, hconforms, hdual, hend, rfl⟩

end SimpleTests.Net
