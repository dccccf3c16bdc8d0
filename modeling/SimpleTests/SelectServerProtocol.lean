import SimpleTests.SelectServerSessions
import SimpleTests.SocketProtocol

/-! # The `select()` server and the order of socket calls

In every run of `main()` the calls on sockets are in order (`socket_calls_conform`): data
moves on accepted connections only and never on the listening socket, `accept()` is called on
the listening socket only, and only behind `listen()`, `select()` waits for no descriptor
that is closed, and what is closed was open.

`Server.table` reads off a state how far each descriptor is, and `table_turn` is the
protocol for each branch of the code.
-/
namespace SimpleTests.Sockets
open Transition FdSet SocketProtocol

/-- How far the listening socket is at a place in `main()`. -/
def Pc.phase : Pc → Phase
  | .socket | .ioctl | .bind => .created
  | .listen => .bound
  | .select | .scan | .accept | .acceptIoctl | .recv | .send | .closeConn | .sweep | .finished
  | .exited | .killed | .undefined => .listening

/-- The open sockets of the server. -/
def Server.table (s : Server) : Table ℕ := fun sd =>
  (s.fds sd).map fun _ => if sd = s.listenSd then s.pc.phase else .connected

/-- The calls on sockets that a step makes. -/
def socketOps (s : Server) : Event → List (Op ℕ)
  | .socket (.ok sd) => [.socket sd]
  | .socket (.error _) => []
  | .ioctl (.ok _) => [.configure s.listenSd]
  | .ioctl (.error _) => [.configure s.listenSd, .close s.listenSd]
  | .bind (.ok _) => [.bind s.listenSd true]
  | .bind (.error _) => [.bind s.listenSd false, .close s.listenSd]
  | .listen (.ok _) => [.listen s.listenSd true]
  | .listen (.error _) => [.listen s.listenSd false, .close s.listenSd]
  | .select .. => [.poll s.masterSet.members]
  | .accept (.ok sd) => [.accept s.listenSd (some sd)]
  | .accept (.error _) => [.accept s.listenSd none]
  | .acceptIoctl (.ok _) => [.configure s.newSd]
  | .acceptIoctl (.error _) => [.configure s.newSd, .close s.listenSd]
  | .recv _ | .send _ | .sigpipe => [.transfer s.i]
  | .closeConn => if s.closeConn then [.close s.i] else []
  | .sweep => if s.i ≤ s.maxSd ∧ s.i ∈ s.masterSet then [.close s.i] else []
  | .scan => []

/-- What the record of the calls has of those on sockets: which call it is, and what its
descriptor stood for. -/
inductive Recorded
  | poll
  | accept (d : Option Descr)
  | transfer (d : Option Descr)
  | close (d : Option Descr)

def Call.recorded : Call → Option Recorded
  | .select _ => some .poll
  | .readable .. => none
  | .accept d => some (.accept d)
  | .recv d _ | .send d _ _ => some (.transfer d)
  | .close d => some (.close d)

def Server.recorded (s : Server) : Op ℕ → Option Recorded
  | .poll _ => some .poll
  | .accept sd _ => some (.accept (s.fds sd))
  | .transfer sd => some (.transfer (s.fds sd))
  | .close sd => some (.close (s.fds sd))
  | .socket _ | .bind .. | .listen .. | .connect .. | .datagram _ | .configure _ => none

variable {s s' : Server} {e : Event} {sd : ℕ}

/-- **`socketOps` are the calls that the step makes**: what the record gets is what the
operations are, in order, each on the descriptor that it names. -/
theorem recorded_turn (ht : Turn s e s') (hinv : InvAt s e.pc) :
    s'.calls.filterMap Call.recorded =
      ((socketOps s e).filterMap s.recorded).reverse ++ s.calls.filterMap Call.recorded := by
  cases ht with
  | selectUndefined _ _ _ hrange =>
    have hrep : Rep s none := hinv
    have hlt := lt_of_mem hrep.greatest.1
    omega
  | closeNot hc =>
    rw [socketOps, if_neg (by simp [hc])]
    rfl
  | closeUndefined hc | closeMax hc | close hc =>
    rw [socketOps, if_pos hc]
    rfl
  | sweepUndefined hcond hi =>
    have hno : s.i ∉ s.masterSet := fun hmem => Nat.not_lt_of_le (fdIsset_eq_none hi) (lt_of_mem hmem)
    rw [socketOps, if_neg fun h => hno h.2]
    rfl
  | sweepSkip hcond hi =>
    rw [socketOps, if_neg fun h => hi h.2]
    rfl
  | sweepClose hcond hi =>
    rw [socketOps, if_pos ⟨hcond, hi⟩]
    rfl
  | sweepEnd hdone =>
    rw [socketOps, if_neg fun h => hdone h.1]
    rfl
  | _ => rfl

/-- The same for a whole run. -/
theorem recorded_run {es : List Event} {s₀ : Server} (h0 : Initial s₀) (hr : Run Steps s₀ es s) :
    (s.calls.filterMap Call.recorded).reverse =
      translate Server.step (fun s e => (socketOps s e).filterMap s.recorded) s₀ es := by
  have run : ∀ {s₁ : Server}, Inv s₁ → Run Steps s₁ es s →
      (s.calls.filterMap Call.recorded).reverse = (s₁.calls.filterMap Call.recorded).reverse ++
        translate Server.step (fun s e => (socketOps s e).filterMap s.recorded) s₁ es := by
    clear hr
    intro s₁ hinv hrun
    induction hrun with
    | nil => exact (List.append_nil _).symm
    | @cons s₁ m s e es hs _ ih =>
      obtain ⟨hpc, ht, -⟩ := turn_of_steps hs
      rw [ih (inv_steps hinv hs), recorded_turn ht (hpc ▸ hinv), translate_cons hs.1]
      simp
  have hstart := run (inv_initial h0) hr
  rw [h0.calls] at hstart
  exact hstart

/-! ## The table -/

theorem table_eq_none : s.table sd = none ↔ s.fds sd = none := Option.map_eq_none_iff

theorem table_open (hopen : s.fds sd ≠ none) : s.table sd ≠ none := mt table_eq_none.mp hopen

theorem table_listen (hopen : s.fds s.listenSd ≠ none) :
    s.table s.listenSd = some s.pc.phase := by
  obtain ⟨d, hd⟩ := Option.ne_none_iff_exists'.mp hopen
  simp [Server.table, hd]

theorem table_conn (hopen : s.fds sd ≠ none) (hne : sd ≠ s.listenSd) :
    s.table sd = some .connected := by
  obtain ⟨d, hd⟩ := Option.ne_none_iff_exists'.mp hopen
  simp [Server.table, hd, hne]

/-- What the table says of a descriptor depends on whether it is open, and for the listening
socket on how far that is. -/
theorem table_apply (hfds : s'.fds sd = none ↔ s.fds sd = none) (hl : s'.listenSd = s.listenSd)
    (hphase : sd = s.listenSd → s'.pc.phase = s.pc.phase) : s'.table sd = s.table sd := by
  unfold Server.table
  cases hd : s.fds sd with
  | none =>
    rw [hfds.mpr hd]
    rfl
  | some d =>
    have hopen : s'.fds sd ≠ none := fun h => by simp [hfds.mp h] at hd
    obtain ⟨d', hd'⟩ := Option.ne_none_iff_exists'.mp hopen
    rw [hd', hl]
    by_cases h : sd = s.listenSd
    · simp [h, hphase h]
    · simp [h]

theorem table_congr (hfds : ∀ sd, s'.fds sd = none ↔ s.fds sd = none)
    (hl : s'.listenSd = s.listenSd) (hphase : s'.pc.phase = s.pc.phase) : s'.table = s.table :=
  funext fun sd => table_apply (hfds sd) hl fun _ => hphase

theorem setNonblocking_fds_eq_none (x : ℕ) :
    (s.setNonblocking x).fds sd = none ↔ s.fds sd = none := by
  rw [← acqOf_eq_none, ← acqOf_eq_none, acqOf_setNonblocking]

/-- One descriptor changes. -/
theorem table_update {x : Option Phase} (hfds : ∀ y, y ≠ sd → s'.fds y = s.fds y)
    (hl : s'.listenSd = s.listenSd) (hphase : sd ≠ s.listenSd → s'.pc.phase = s.pc.phase)
    (hsd : s'.table sd = x) : s'.table = Function.update s.table sd x := by
  funext y
  by_cases hy : y = sd
  · rw [hy, Function.update_self, hsd]
  · rw [Function.update_of_ne hy]
    exact table_apply (by rw [hfds y hy]) hl fun h => hphase fun h' => hy (h.trans h'.symm)

/-- The table behind a `close()`. -/
theorem table_close (hfds : s'.fds = (s.close sd).fds) (hl : s'.listenSd = s.listenSd)
    (hphase : sd ≠ s.listenSd → s'.pc.phase = s.pc.phase) :
    s'.table = Function.update s.table sd none := by
  refine table_update (fun y hy => ?_) hl hphase (table_eq_none.mpr ?_)
  · rw [hfds]
    exact Function.update_of_ne hy _ _
  · rw [hfds]
    exact Function.update_self _ _ _

/-- The table while the listening socket is alone. -/
theorem OnlyListen.table_eq (h : OnlyListen s) :
    s.table = Function.update Table.empty s.listenSd (some s.pc.phase) := by
  funext sd
  by_cases hsd : sd = s.listenSd
  · rw [hsd, Function.update_self]
    exact table_listen h.listen
  · rw [Function.update_of_ne hsd]
    exact table_eq_none.mpr (h.other sd hsd)

/-- The members of `master_set` are listening or connected while the server is in a round. -/
theorem Rep.table_mem {pending : Option ℕ} (h : Rep s pending) (hphase : s.pc.phase = .listening)
    (hsd : sd ∈ s.masterSet) : s.table sd = some .listening ∨ s.table sd = some .connected := by
  by_cases hl : sd = s.listenSd
  · rw [hl, table_listen (h.isOpen h.listen), hphase]
    exact Or.inl rfl
  · exact Or.inr (table_conn (h.isOpen hsd) hl)

theorem Handling.table_i (h : Handling s) : s.table s.i = some .connected :=
  table_conn (h.rep.isOpen h.mem) h.ne_listen

/-! ## The steps -/

section Conforms
variable {op : Op ℕ}

/-- A step without a call on sockets. -/
theorem conforms_nil (htable : s'.table = s.table) : Conforms s.table [] s'.table := by
  rw [htable]
  exact .nil _

/-- A call that leaves the sockets as they are. -/
theorem conforms_stay (hop : s.table.step op = some s.table) (htable : s'.table = s.table) :
    Conforms s.table [op] s'.table := by
  rw [htable]
  exact .single hop

/-- `close()` on an open descriptor. -/
theorem conforms_close (hopen : s.fds sd ≠ none) (hfds : s'.fds = (s.close sd).fds)
    (hl : s'.listenSd = s.listenSd) (hphase : sd ≠ s.listenSd → s'.pc.phase = s.pc.phase) :
    Conforms s.table [.close sd] s'.table := by
  rw [table_close hfds hl hphase]
  exact .single (Table.step_close (table_open hopen))

/-- An error exit closes the listening socket behind the call that has failed. -/
theorem conforms_fail (hopen : s.fds s.listenSd ≠ none)
    (hop : s.table.step op = some s.table) :
    Conforms s.table [op, .close s.listenSd] s.fail.table :=
  .cons hop (conforms_close hopen rfl rfl fun h => absurd rfl h)

/-- The listening socket gets further. -/
theorem conforms_listen (hop : s.table.step op = some (Function.update s.table s.listenSd
    (some s'.pc.phase))) (hopen : s.fds s.listenSd ≠ none) (hfds : s'.fds = s.fds)
    (hl : s'.listenSd = s.listenSd) : Conforms s.table [op] s'.table := by
  have hself : s'.table s.listenSd = some s'.pc.phase := by
    rw [← hl]
    apply table_listen
    rw [hfds, hl]
    exact hopen
  rw [table_update (fun y _ => congrFun hfds y) hl (absurd rfl) hself]
  exact .single hop

end Conforms

/-- **The calls of every step are in order.** -/
theorem table_turn (ht : Turn s e s') (hpc : s.pc = e.pc) (hk : Kernel s e)
    (hinv : InvAt s e.pc) : Conforms s.table (socketOps s e) s'.table := by
  have hphase : s.pc.phase = e.pc.phase := congrArg Pc.phase hpc
  have hlisten : s.fds s.listenSd ≠ none → s.table s.listenSd = some e.pc.phase :=
    fun hopen => (table_listen hopen).trans (congrArg some hphase)
  cases ht with
  | socketError =>
    obtain ⟨hnone, -⟩ := hinv
    apply conforms_nil
    funext x
    rw [table_eq_none.mpr (hnone x)]
    exact table_eq_none.mpr (hnone x)
  | socket sd =>
    obtain ⟨hnone, -⟩ := hinv
    have hempty : s.table = Table.empty := funext fun x => table_eq_none.mpr (hnone x)
    have honly : OnlyListen { s.acquire sd with listenSd := sd, pc := .ioctl } := by
      refine ⟨by simp [Server.acquire], fun x (hx : x ≠ sd) => ?_⟩
      simp [Server.acquire, hx, hnone]
    rw [honly.table_eq, hempty]
    exact .single (Table.step_socket rfl)
  | ioctlError =>
    have hopen := hinv.listen_open (by simp [Event.pc])
    exact conforms_fail hopen (Table.step_configure (table_open hopen))
  | ioctl =>
    have hopen := hinv.listen_open (by simp [Event.pc])
    apply conforms_stay (Table.step_configure (table_open hopen))
    exact table_congr (fun _ => setNonblocking_fds_eq_none _) rfl hphase.symm
  | bindError =>
    have hopen := hinv.listen_open (by simp [Event.pc])
    exact conforms_fail hopen (Table.step_bind (hlisten hopen) false)
  | bind =>
    have hopen := hinv.listen_open (by simp [Event.pc])
    exact conforms_listen (Table.step_bind (hlisten hopen) true) hopen rfl rfl
  | listenError =>
    have hopen := hinv.listen_open (by simp [Event.pc])
    exact conforms_fail hopen (Table.step_listen (hlisten hopen) false)
  | listenUndefined | listen =>
    have hopen := hinv.listen_open (by simp [Event.pc])
    exact conforms_listen (Table.step_listen (hlisten hopen) true) hopen rfl rfl
  | selectUndefined | selectError | selectTimeout | selectReady =>
    have hrep : Rep s none := hinv
    have hpoll : ∀ sd ∈ s.masterSet.members, s.table sd = some .listening ∨
        s.table sd = some .connected := fun sd hsd => hrep.table_mem hphase (mem_members.mp hsd)
    apply conforms_stay (Table.step_poll hpoll)
    exact table_congr (fun _ => Iff.rfl) rfl hphase.symm
  | scanUndefined | scanSkip | scanListen | scanConn | scanEnd | scanAgain =>
    exact conforms_nil (table_congr (fun _ => Iff.rfl) rfl hphase.symm)
  | acceptError =>
    have hopen := hinv.listen_open (by simp [Event.pc])
    apply conforms_stay (Table.step_accept_none (hlisten hopen))
    exact table_congr (fun _ => Iff.rfl) rfl hphase.symm
  | accept sd =>
    have hopen := hinv.listen_open (by simp [Event.pc])
    have hfresh : s.fds sd = none := hk
    have hne : sd ≠ s.listenSd := by
      rintro rfl
      exact hopen hfresh
    have htable : Server.table { (s.note (.accept (s.fds s.listenSd))).acquire sd with
        newSd := sd, pc := .acceptIoctl } = Function.update s.table sd (some .connected) := by
      refine table_update (fun y hy => Function.update_of_ne hy _ _) rfl (fun _ => hphase.symm) ?_
      refine table_conn ?_ hne
      simp [Server.acquire]
    rw [htable]
    exact .single (Table.step_accept (hlisten hopen) (table_eq_none.mpr hfresh))
  | acceptIoctlError =>
    obtain ⟨hrep, hnew, -⟩ := hinv
    exact conforms_fail (hrep.isOpen hrep.listen) (Table.step_configure (table_open hnew))
  | acceptUndefined | acceptAdd =>
    obtain ⟨hrep, hnew, -⟩ := hinv
    apply conforms_stay (Table.step_configure (table_open hnew))
    exact table_congr (fun _ => setNonblocking_fds_eq_none _) rfl hphase.symm
  | recvError | recvClosed | recvData | sendError | send | sendKilled =>
    have hh : Handling s := hinv
    apply conforms_stay (Table.step_transfer hh.table_i)
    exact table_congr (fun _ => Iff.rfl) rfl hphase.symm
  | closeNot hc =>
    rw [socketOps, if_neg (by simp [hc])]
    exact conforms_nil (table_congr (fun _ => Iff.rfl) rfl hphase.symm)
  | closeUndefined hc | closeMax hc | close hc =>
    have hh : Handling s := hinv
    rw [socketOps, if_pos hc]
    exact conforms_close (hh.rep.isOpen hh.mem) rfl rfl fun _ => hphase.symm
  | sweepUndefined hcond hi =>
    have hno : s.i ∉ s.masterSet := fun hmem => Nat.not_lt_of_le (fdIsset_eq_none hi) (lt_of_mem hmem)
    rw [socketOps, if_neg fun h => hno h.2]
    exact conforms_nil (table_congr (fun _ => Iff.rfl) rfl hphase.symm)
  | sweepSkip hcond hi =>
    rw [socketOps, if_neg fun h => hi h.2]
    exact conforms_nil (table_congr (fun _ => Iff.rfl) rfl hphase.symm)
  | sweepClose hcond hi =>
    have hsweep : Sweeping s := hinv
    have hopen : s.fds s.i ≠ none := (hsweep.open_iff s.i).mpr ⟨hi, Nat.le_refl _⟩
    rw [socketOps, if_pos ⟨hcond, hi⟩]
    exact conforms_close hopen rfl rfl fun _ => hphase.symm
  | sweepEnd hdone =>
    rw [socketOps, if_neg fun h => hdone h.1]
    exact conforms_nil (table_congr (fun _ => Iff.rfl) rfl hphase.symm)

/-- **The server calls its sockets in order**, in every run, and at its end none is open. -/
theorem socket_calls_conform {es : List Event} {s₀ : Server} (h0 : Initial s₀)
    (hr : Run Steps s₀ es s) :
    Conforms Table.empty (translate Server.step socketOps s₀ es) s.table ∧
      (s.pc = .finished → s.table = Table.empty) := by
  have hempty : s₀.table = Table.empty := funext fun sd => table_eq_none.mpr (h0.fds sd)
  rw [← hempty]
  constructor
  · refine hr.translate (I := Inv) (fun s e s' => inv_steps) (fun s e s' h hs => ?_) (inv_initial h0)
    obtain ⟨hpc, ht, hk⟩ := turn_of_steps hs
    apply table_turn ht hpc hk
    rw [← hpc]
    exact h
  · intro hend
    have hinv : InvAt s s.pc := inv_of_reachable ⟨s₀, es, h0, hr⟩
    rw [hend] at hinv
    have hnone : ∀ sd, s.fds sd = none := hinv
    rw [hempty]
    exact funext fun sd => table_eq_none.mpr (hnone sd)

theorem socket_calls_conform_oneVisit :
    (serve oneVisit).pc = .finished ∧
    Conforms Table.empty (translate Server.step socketOps start oneVisit) (serve oneVisit).table ∧
      ((serve oneVisit).pc = .finished → (serve oneVisit).table = Table.empty) :=
  ⟨by decide, socket_calls_conform initial_start (run_start (by decide))⟩

end SimpleTests.Sockets
