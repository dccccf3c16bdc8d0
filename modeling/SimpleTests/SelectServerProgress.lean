import SimpleTests.SelectServerSessions
import SimpleTests.BoundedWork

/-! # The progress of the `select()` server

`select()` is where the server waits, and it should get back there.  Each turn of its loops
is paid for by `Server.turns`: what the scan has still to visit, the descriptors that
`accept()` can still return, the sweep behind them.  The loops over `recv()` and `send()`
are not paid for, because nothing in `main()` bounds them.

So between two calls of `select()` the server does at most `roundTurns` steps other than to
receive data and to send it (`work_le`), and in an infinite run it returns to `select()`
again and again, or is with one client forever (`select_or_one_client`).  The second really
happens: a client whose data never runs out keeps the server from all the others
(`starved_by_one_client`).
-/
namespace SimpleTests.Sockets
open Transition FdSet EchoSession

/-! ## What the server has to do before `select()` -/

/-- A turn of the receive loop that goes on: data comes in, or is sent. -/
def Event.echoes : Event → Bool
  | .recv (.ok data) => decide (data.bytes.length ≠ 0)
  | .send (.ok _) => true
  | _ => false

/-- Any other step. -/
def Event.works (e : Event) : Bool := !e.echoes

def Event.isSelect : Event → Bool
  | .select .. => true
  | _ => false

namespace Server
variable (s : Server)

/-- The turns of the scan from `i` on, with the sweep behind it.  A descriptor takes three at
most, and the listening socket as many more as descriptors can be accepted. -/
def scanTurns (i : ℕ) : ℕ :=
  3 * (fdSetSize - i) + (if i ≤ s.listenSd then 2 * fdSetSize else 0) + (fdSetSize + 2)

/-- The descriptors that can still be added to `master_set`. -/
def room : ℕ := fdSetSize - s.masterSet.bits.card

/-- The steps that are paid for at each place in `main()`. -/
def turns : ℕ :=
  match s.pc with
  | .socket => 4
  | .ioctl => 3
  | .bind => 2
  | .listen => 1
  | .select => 0
  | .scan => s.scanTurns s.i
  | .accept => s.scanTurns (s.i + 1) + 2 * s.room + 2
  | .acceptIoctl => s.scanTurns (s.i + 1) + 2 * s.room + 1
  | .recv | .send => s.scanTurns (s.i + 1) + 2
  | .closeConn => s.scanTurns (s.i + 1) + 1
  | .sweep => fdSetSize - s.i + 1
  | .finished | .exited | .killed | .undefined => 0

end Server

/-- What one `select()` makes the server do at most. -/
def roundTurns : ℕ := 6 * fdSetSize + 3

variable {s s' : Server} {e : Event}

theorem scanTurns_succ {i : ℕ} (hi : i < fdSetSize) :
    s.scanTurns (i + 1) + 3 ≤ s.scanTurns i := by
  unfold Server.scanTurns
  split <;> split <;> omega

/-- Behind the listening socket the scan accepts no more. -/
theorem scanTurns_listen (hi : s.listenSd < fdSetSize) :
    s.scanTurns (s.listenSd + 1) + 2 * fdSetSize + 3 = s.scanTurns s.listenSd := by
  unfold Server.scanTurns
  rw [if_pos (Nat.le_refl _), if_neg (by omega)]
  omega

theorem scanTurns_le (i : ℕ) : s.scanTurns i + 1 ≤ roundTurns := by
  unfold Server.scanTurns roundTurns
  split <;> omega

theorem sweep_lt_scanTurns (i : ℕ) : fdSetSize + 1 < s.scanTurns i := by
  unfold Server.scanTurns
  omega

theorem room_le (s : Server) : s.room ≤ fdSetSize := Nat.sub_le _ _

/-- A new member takes room. -/
theorem room_fdSet {sd : ℕ} {master : FdSet} (hm : fdSet sd s.masterSet = some master)
    (hnew : sd ∉ s.masterSet) : fdSetSize - master.bits.card + 1 = s.room := by
  have hsub : master.bits ⊆ Finset.range fdSetSize :=
    fun x hx => Finset.mem_range.mpr (master.inRange x hx)
  have hle : master.bits.card ≤ fdSetSize := by
    simpa using Finset.card_le_card hsub
  have hcard : master.bits.card = s.masterSet.bits.card + 1 := by
    have hins : master.bits = insert sd s.masterSet.bits := by
      ext x
      rw [Finset.mem_insert]
      exact mem_fdSet hm
    rw [hins]
    exact Finset.card_insert_of_notMem hnew
  unfold Server.room
  omega

/-- **Every step is paid for**, but for data and for `select()`. -/
theorem turns_turn (ht : Turn s e s') (hpc : s.pc = e.pc) (hinv : InvAt s e.pc) :
    s'.turns + e.works.toNat ≤ s.turns + roundTurns * e.isSelect.toNat := by
  have hturns : s.turns = { s with pc := e.pc }.turns := by
    rw [← hpc]
  rw [hturns]
  cases ht with
  | socketError | ioctlError | bindError | listenError | listenUndefined =>
    exact Nat.succ_le_succ (Nat.zero_le _)
  | socket | ioctl | bind | listen => exact Nat.le_refl _
  | selectUndefined =>
    have hturns := scanTurns_le (s := s) 0
    show 0 + 1 ≤ 0 + roundTurns * 1
    omega
  | selectError | selectTimeout =>
    have hturns := scanTurns_le (s := s) 0
    have hsweep := sweep_lt_scanTurns (s := s) 0
    show fdSetSize - 0 + 1 + 1 ≤ 0 + roundTurns * 1
    omega
  | selectReady =>
    have hturns := scanTurns_le (s := s) 0
    show s.scanTurns 0 + 1 ≤ 0 + roundTurns * 1
    omega
  | scanSkip hcond hi =>
    obtain ⟨hrep, -⟩ := hinv
    have hlt := lt_of_mem hrep.greatest.1
    have hnext := scanTurns_succ (s := s) (i := s.i) (by omega)
    show s.scanTurns (s.i + 1) + 1 ≤ s.scanTurns s.i
    omega
  | scanListen hcond hi hl =>
    obtain ⟨hrep, -⟩ := hinv
    have hnext := scanTurns_listen (s := s) (lt_of_mem hrep.listen)
    have hroom := room_le s
    rw [← hl] at hnext
    show s.scanTurns (s.i + 1) + 2 * s.room + 2 + 1 ≤ s.scanTurns s.i
    omega
  | scanConn hcond hi hl =>
    obtain ⟨hrep, -⟩ := hinv
    have hlt := lt_of_mem hrep.greatest.1
    have hnext := scanTurns_succ (s := s) (i := s.i) (by omega)
    show s.scanTurns (s.i + 1) + 2 + 1 ≤ s.scanTurns s.i
    omega
  | scanEnd =>
    have hsweep := sweep_lt_scanTurns (s := s) s.i
    show fdSetSize - 0 + 1 + 1 ≤ s.scanTurns s.i
    omega
  | scanUndefined | scanAgain =>
    have hsweep := sweep_lt_scanTurns (s := s) s.i
    show 0 + 1 ≤ s.scanTurns s.i
    omega
  | acceptError =>
    show s.scanTurns (s.i + 1) + 1 ≤ s.scanTurns (s.i + 1) + 2 * s.room + 2
    omega
  | accept => exact Nat.le_refl _
  | acceptIoctlError | acceptUndefined => exact Nat.succ_le_succ (Nat.zero_le _)
  | acceptAdd _ master hm =>
    obtain ⟨hrep, -⟩ := hinv
    have hnew : s.newSd ∉ s.masterSet := fun hmem => ((hrep.mem_iff _).mp hmem).2 rfl
    have hroom := room_fdSet hm hnew
    show s.scanTurns (s.i + 1) + 2 * (fdSetSize - master.bits.card) + 2 + 1 ≤
      s.scanTurns (s.i + 1) + 2 * s.room + 1
    omega
  | recvError | sendError => exact Nat.le_refl _
  | recvClosed data hd =>
    have hworks : (Event.recv (.ok data)).works = true := by simp [Event.works, Event.echoes, hd]
    rw [hworks]
    exact Nat.le_refl _
  | recvData data hd =>
    have hworks : (Event.recv (.ok data)).works = false := by simp [Event.works, Event.echoes, hd]
    rw [hworks]
    exact Nat.le_refl _
  | send => exact Nat.le_refl _
  | closeNot | closeMax | close => exact Nat.le_refl _
  | sendKilled | closeUndefined => exact Nat.succ_le_succ (Nat.zero_le _)
  | sweepUndefined => exact Nat.succ_le_succ (Nat.zero_le _)
  | sweepSkip hcond | sweepClose hcond =>
    have hsweep : Sweeping s := hinv
    have hlt := lt_of_mem hsweep.greatest.1
    show fdSetSize - (s.i + 1) + 1 + 1 ≤ fdSetSize - s.i + 1
    omega
  | sweepEnd => exact Nat.succ_le_succ (Nat.zero_le _)

/-- The potential of the server. -/
theorem pays_turns :
    Pays Steps (Reachable Steps Initial) Server.turns Event.works Event.isSelect roundTurns where
  inv s e s' h hs := h.step hs
  pays s e s' h hs := by
    obtain ⟨hpc, ht, -⟩ := turn_of_steps hs
    apply turns_turn ht hpc
    rw [← hpc]
    exact inv_of_reachable h

/-- **The server has little to do between two calls of `select()`**: in every run, all the
steps that neither receive data nor send it are paid for by the setup and by the `select()`
calls. -/
theorem work_le {es : List Event} {s₀ : Server} (h0 : Initial s₀) (hr : Run Steps s₀ es s) :
    es.countP Event.works ≤ 4 + roundTurns * es.countP Event.isSelect := by
  have hpays := pays_turns.countP_le hr (.initial h0)
  have hturns : s₀.turns = 4 := by
    unfold Server.turns
    rw [h0.pc]
  omega

theorem work_le_oneVisit :
    oneVisit.countP Event.works ≤ 4 + roundTurns * oneVisit.countP Event.isSelect :=
  work_le initial_start (run_start (by decide))

/-! ## Runs without an end -/

/-- Data is received and sent on one descriptor. -/
theorem i_of_echoes (ht : Turn s e s') (he : e.echoes = true) :
    s'.i = s.i ∧ (s'.pc = .recv ∨ s'.pc = .send) := by
  cases ht with
  | recvData => exact ⟨rfl, Or.inr rfl⟩
  | send => exact ⟨rfl, Or.inl rfl⟩
  | recvClosed data hd => simp [Event.echoes, hd] at he
  | _ => cases he

/-- **Either `select()` again and again, or one client forever**: from some point on all the
steps of an infinite run that calls `select()` finitely often receive and send data of one
descriptor. -/
theorem select_or_one_client {σ : ℕ → Server} {es : ℕ → Event}
    (h0 : Reachable Steps Initial (σ 0)) (hr : Forever Steps σ es) :
    (∀ n, ∃ m ≥ n, (es m).isSelect = true) ∨
      ∃ n, ∀ m ≥ n, (es m).echoes = true ∧ (σ m).i = (σ n).i := by
  refine (pays_turns.recurs_or_settles hr h0).imp_right ?_
  rintro ⟨n, hn⟩
  have hechoes : ∀ m ≥ n, (es m).echoes = true := by
    intro m hm
    have hworks := hn m hm
    simpa [Event.works] using hworks
  refine ⟨n, fun m hm => ⟨hechoes m hm, ?_⟩⟩
  apply Forever.view_eq (f := Server.i) (fun k hk => ?_) m hm
  obtain ⟨-, ht, -⟩ := turn_of_steps (hr k)
  exact (i_of_echoes ht (hechoes k hk)).1

/-! ## A client whose data does not run out -/

/-- The events of the receive loop for a stream of chunks that are sent back whole. -/
def echoing (chunks : ℕ → Chunk) (n : ℕ) : Event :=
  if n % 2 = 0 then .recv (.ok (chunks (n / 2))) else .send (.ok (chunks (n / 2)).bytes.length)

/-- The states that the events `es` lead through. -/
def Server.follow (s : Server) (es : ℕ → Event) : ℕ → Server
  | 0 => s
  | n + 1 => (s.follow es n).react (es n)

/-- The server is in the receive loop for the connection on `i`, and `n` halves of its turns
have been done. -/
structure EchoingAt (s₀ : Server) (chunks : ℕ → Chunk) (n : ℕ) (s : Server) : Prop where
  pc : s.pc = if n % 2 = 0 then .recv else .send
  len : n % 2 = 1 → s.len = (chunks (n / 2)).bytes.length
  i : s.i = s₀.i
  fds : s.fds = s₀.fds

theorem EchoingAt.steps {chunks : ℕ → Chunk} {s₀ : Server} {n : ℕ} (h : EchoingAt s₀ chunks n s) :
    Steps s (echoing chunks n) (s.react (echoing chunks n)) := by
  rw [steps_iff]
  have hpc := h.pc
  unfold echoing
  by_cases hn : n % 2 = 0
  · rw [if_pos hn] at hpc ⊢
    exact ⟨hpc, rfl, trivial⟩
  · rw [if_neg hn] at hpc ⊢
    exact ⟨hpc, rfl, (h.len (by omega)).ge⟩

theorem EchoingAt.next {chunks : ℕ → Chunk} {s₀ : Server} {n : ℕ} (h : EchoingAt s₀ chunks n s)
    (hne : ∀ n, (chunks n).bytes ≠ []) :
    EchoingAt s₀ chunks (n + 1) (s.react (echoing chunks n)) := by
  unfold echoing
  by_cases hn : n % 2 = 0
  · have hlen : (chunks (n / 2)).bytes.length ≠ 0 := fun h0 => hne _ (List.length_eq_zero_iff.mp h0)
    have hhalf : (n + 1) / 2 = n / 2 := by omega
    rw [if_pos hn]
    have ht := turn_react s (.recv (.ok (chunks (n / 2))))
    generalize s.react (.recv (.ok (chunks (n / 2)))) = s' at ht ⊢
    cases ht with
    | recvClosed _ hd => exact absurd hd hlen
    | recvData =>
      refine ⟨?_, fun _ => ?_, h.i, h.fds⟩
      · rw [if_neg (by omega)]
      · rw [hhalf]
  · rw [if_neg hn]
    refine ⟨?_, fun hodd => by omega, h.i, h.fds⟩
    rw [if_pos (by omega)]
    rfl

/-- No other session sees the receive loop. -/
theorem EchoingAt.project_acts {chunks : ℕ → Chunk} {s₀ : Server} {n c : ℕ}
    (h : EchoingAt s₀ chunks n s) (hc : s₀.acqOf s₀.i ≠ some c) :
    project c (sessionActs s (echoing chunks n)) = [] := by
  unfold echoing
  by_cases hn : n % 2 = 0
  · rw [if_pos hn]
    rfl
  · rw [if_neg hn, sessionActs]
    have hacq : s.acqOf s.i = s₀.acqOf s₀.i := by
      unfold Server.acqOf
      rw [h.i, h.fds]
    rw [hacq]
    cases hd : s₀.acqOf s₀.i with
    | none => rfl
    | some d =>
      have hne : d ≠ c := by
        rintro rfl
        exact hc hd
      exact project_cons_of_ne hne _ []

theorem echoingAt_follow {chunks : ℕ → Chunk} (hpc : s.pc = .recv)
    (hne : ∀ n, (chunks n).bytes ≠ []) (n : ℕ) :
    EchoingAt s chunks n (s.follow (echoing chunks) n) := by
  induction n with
  | zero => exact ⟨hpc, fun h0 => absurd h0 (by decide), rfl, rfl⟩
  | succ n ih => exact ih.next hne

/-- The client on 4 has something to say. -/
def visited : List Event :=
  oneClient ++ [.select 0 0 (.ok ⟨{4}, four_inRange⟩), .scan, .scan, .scan, .scan, .scan]

/-- It sends one byte again and again. -/
def ticks (_ : ℕ) : Chunk := .byte 7

theorem forever_ticks :
    Forever Steps ((serve visited).follow (echoing ticks)) (echoing ticks) := by
  intro n
  apply EchoingAt.steps
  exact echoingAt_follow (by decide) (fun _ => List.cons_ne_nil _ _) n

theorem select_or_one_client_ticks :
    (∀ n, ∃ m ≥ n, (echoing ticks m).isSelect = true) ∨
      ∃ n, ∀ m ≥ n, (echoing ticks m).echoes = true ∧
        ((serve visited).follow (echoing ticks) m).i =
          ((serve visited).follow (echoing ticks) n).i :=
  select_or_one_client (reachable_serve (by decide)) forever_ticks

/-- A step that is none of a session leaves it. -/
theorem sessions_eq_of_project {c : ℕ} (h : Reachable Steps Initial s) (hs : Steps s e s')
    (hc : project c (sessionActs s e) = []) : s'.sessions c = s.sessions c := by
  have hrun := run_interleave_iff.mp (service_step h hs) c
  rw [hc] at hrun
  exact hrun.unique (.nil _)

/-- **One client can keep the server from all the others**: from wherever a connection is
being served, a stream of data that does not run out is echoed forever, and in the meantime
nothing happens on any other descriptor. -/
theorem starved_by_one_client (h : Reachable Steps Initial s) (hpc : s.pc = .recv)
    {chunks : ℕ → Chunk} (hne : ∀ n, (chunks n).bytes ≠ []) :
    ∃ σ : ℕ → Server, σ 0 = s ∧ Forever Steps σ (echoing chunks) ∧
      ∀ c, s.acqOf s.i ≠ some c → ∀ n, (σ n).sessions c = s.sessions c := by
  have hat := echoingAt_follow hpc hne
  have hforever : Forever Steps (s.follow (echoing chunks)) (echoing chunks) :=
    fun n => (hat n).steps
  refine ⟨s.follow (echoing chunks), rfl, hforever, fun c hc n => ?_⟩
  induction n with
  | zero => rfl
  | succ m ih =>
    have hreach := hforever.invariant (fun s e s' h hs => Reachable.step h hs) h m
    exact (sessions_eq_of_project hreach (hforever m) ((hat m).project_acts hc)).trans ih

theorem starved_by_one_client_ticks :
    ∃ σ : ℕ → Server, σ 0 = serve visited ∧ Forever Steps σ (echoing ticks) ∧
      ∀ c, (serve visited).acqOf (serve visited).i ≠ some c →
        ∀ n, (σ n).sessions c = (serve visited).sessions c :=
  starved_by_one_client (reachable_serve (by decide)) (by decide) fun _ => List.cons_ne_nil _ _

end SimpleTests.Sockets
