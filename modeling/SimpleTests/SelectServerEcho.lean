import SimpleTests.SelectServerDescriptors

/-! # The echo of the `select()` server

What `main()` receives on a connection and what the kernel takes back from it, over a
whole run.  `send()` may take fewer bytes than it is given, and the program looks at its
result only to see whether it is negative.

The record of the calls has a grammar (`Paired`): every chunk that `recv()` delivers is
given to `send()` by the next call, on the same connection.  So the two byte streams
differ exactly where a `send()` did not take everything, and `echoComplete_iff` says
when the echo is complete: at every `select()`, on every connection without an error but
`EWOULDBLOCK`, if and only if all its sends took all they were given.
-/
namespace SimpleTests.Sockets
open Transition FdSet ResourceLedger

variable {s s' : Server} {e : Event} {c : ℕ} {calls : List Call}

/-! ## The two streams of a connection -/

/-- The bytes that `recv()` has delivered on connection `c`. -/
def received (c : ℕ) : List Call → List UInt8
  | [] => []
  | .recv d (.ok chunk) :: calls =>
    if d.map Descr.acq = some c then received c calls ++ chunk.bytes else received c calls
  | _ :: calls => received c calls

/-- How many bytes a `send()` with this result has taken. -/
def taken : Except Errno ℕ → ℕ
  | .ok n => n
  | .error _ => 0

/-- The bytes that the kernel has taken from `send()` on connection `c`. -/
def sent (c : ℕ) : List Call → List UInt8
  | [] => []
  | .send d data r :: calls =>
    if d.map Descr.acq = some c then sent c calls ++ data.take (taken r) else sent c calls
  | _ :: calls => sent c calls

/-- The call is no `send()` on connection `c`, or took all it was given. -/
def Call.SentAll (c : ℕ) : Call → Prop
  | .send d data r => d.map Descr.acq = some c → r = .ok data.length
  | .select _ | .readable .. | .accept _ | .recv .. | .close _ => True

/-- The call has shown no error of the socket of connection `c` but `EWOULDBLOCK`. -/
def Call.Clean (c : ℕ) : Call → Prop
  | .recv d (.error e) | .send d _ (.error e) => d.map Descr.acq = some c → e = .ewouldblock
  | .recv _ (.ok _) | .send _ _ (.ok _) | .select _ | .readable .. | .accept _ | .close _ => True

/-- The call is a `recv()` that has found connection `c` closed by its peer. -/
def Call.FoundClosed (c : ℕ) : Call → Prop
  | .recv d (.ok chunk) => d.map Descr.acq = some c ∧ chunk.bytes = []
  | .recv _ (.error _) | .send .. | .select _ | .readable .. | .accept _ | .close _ => False

/-- Every `send()` on connection `c` took all it was given. -/
def AllSent (c : ℕ) (calls : List Call) : Prop := ∀ x ∈ calls, x.SentAll c

/-- The socket of connection `c` has reported no error other than `EWOULDBLOCK`. -/
def NoError (c : ℕ) (calls : List Call) : Prop := ∀ x ∈ calls, x.Clean c

/-- The peer has closed connection `c`. -/
def PeerClosed (c : ℕ) (calls : List Call) : Prop := ∃ x ∈ calls, x.FoundClosed c

/-! ## The grammar of the record -/

/-- The call moves data: a `send()`, or a `recv()` that delivers bytes. -/
def Call.MovesData : Call → Prop
  | .recv _ (.ok chunk) => chunk.bytes ≠ []
  | .send .. => True
  | .recv _ (.error _) | .select _ | .readable .. | .accept _ | .close _ => False

/-- Every chunk received is sent by the next call, on the same connection. -/
inductive Paired : List Call → Prop
  | nil : Paired []
  | other {x : Call} {calls : List Call} (hx : ¬ x.MovesData) : Paired calls → Paired (x :: calls)
  | echo {d : Option Descr} {chunk : Chunk} {r : Except Errno ℕ} {calls : List Call}
      (hne : chunk.bytes ≠ []) (hr : ∀ n, r = .ok n → n ≤ chunk.bytes.length) :
      Paired calls → Paired (.send d chunk.bytes r :: .recv d (.ok chunk) :: calls)

theorem received_other {x : Call} (hx : ¬ x.MovesData) :
    received c (x :: calls) = received c calls := by
  cases x with
  | recv d r =>
    cases r with
    | error => rfl
    | ok chunk =>
      have hempty : chunk.bytes = [] := by simpa [Call.MovesData] using hx
      simp [received, hempty]
  | send => exact absurd trivial hx
  | select | readable | accept | close => rfl

theorem sent_other {x : Call} (hx : ¬ x.MovesData) : sent c (x :: calls) = sent c calls := by
  cases x with
  | send => exact absurd trivial hx
  | select | readable | accept | recv | close => rfl

theorem sentAll_other {x : Call} (hx : ¬ x.MovesData) : x.SentAll c := by
  cases x with
  | send => exact absurd trivial hx
  | select | readable | accept | recv | close => trivial

/-- The streams of the connection that is served grow by the chunk, and by what the kernel
takes of it. -/
theorem streams_echo {d : Option Descr} (hd : d.map Descr.acq = some c) (chunk : Chunk)
    (r : Except Errno ℕ) (calls : List Call) :
    received c (.send d chunk.bytes r :: .recv d (.ok chunk) :: calls) =
        received c calls ++ chunk.bytes ∧
      sent c (.send d chunk.bytes r :: .recv d (.ok chunk) :: calls) =
        sent c calls ++ chunk.bytes.take (taken r) :=
  ⟨if_pos hd, if_pos hd⟩

/-- The streams of the other connections stay. -/
theorem streams_echo_of_ne {d : Option Descr} (hd : d.map Descr.acq ≠ some c) (chunk : Chunk)
    (r : Except Errno ℕ) (calls : List Call) :
    received c (.send d chunk.bytes r :: .recv d (.ok chunk) :: calls) = received c calls ∧
      sent c (.send d chunk.bytes r :: .recv d (.ok chunk) :: calls) = sent c calls :=
  ⟨if_neg hd, if_neg hd⟩

theorem eq_ok_of_le_taken {r : Except Errno ℕ} {len : ℕ} (hr : ∀ n, r = .ok n → n ≤ len)
    (hpos : 0 < len) (hle : len ≤ taken r) : r = .ok len := by
  cases r with
  | error =>
    have hzero : len ≤ 0 := hle
    omega
  | ok n =>
    have hn : n ≤ len := hr n rfl
    have hle : len ≤ n := hle
    rw [show n = len from by omega]

theorem Paired.length_sent_le (h : Paired calls) (c : ℕ) :
    (sent c calls).length ≤ (received c calls).length := by
  induction h with
  | nil => exact Nat.le_refl _
  | other hx _ ih =>
    rw [received_other hx, sent_other hx]
    exact ih
  | @echo d chunk r calls hne hr _ ih =>
    by_cases hd : d.map Descr.acq = some c
    · obtain ⟨hrec, hsent⟩ := streams_echo hd chunk r calls
      rw [hrec, hsent, List.length_append, List.length_append, List.length_take]
      omega
    · obtain ⟨hrec, hsent⟩ := streams_echo_of_ne hd chunk r calls
      rw [hrec, hsent]
      exact ih

theorem Paired.sent_eq (h : Paired calls) (hall : AllSent c calls) :
    sent c calls = received c calls := by
  induction h with
  | nil => rfl
  | other hx _ ih =>
    obtain ⟨-, hearlier⟩ := List.forall_mem_cons.mp hall
    rw [received_other hx, sent_other hx]
    exact ih hearlier
  | @echo d chunk r calls hne hr _ ih =>
    obtain ⟨hsend, hrecv⟩ := List.forall_mem_cons.mp hall
    obtain ⟨-, hearlier⟩ := List.forall_mem_cons.mp hrecv
    by_cases hd : d.map Descr.acq = some c
    · obtain ⟨hrec, hsent⟩ := streams_echo hd chunk r calls
      obtain rfl : r = .ok chunk.bytes.length := hsend hd
      rw [hrec, hsent, ih hearlier]
      simp [taken]
    · obtain ⟨hrec, hsent⟩ := streams_echo_of_ne hd chunk r calls
      rw [hrec, hsent, ih hearlier]

/-- Where the lengths agree, nothing was left behind by any `send()`. -/
theorem Paired.allSent (h : Paired calls)
    (hlen : (sent c calls).length = (received c calls).length) : AllSent c calls := by
  induction h with
  | nil => exact List.forall_mem_nil _
  | other hx _ ih =>
    rw [received_other hx, sent_other hx] at hlen
    exact List.forall_mem_cons.mpr ⟨sentAll_other hx, ih hlen⟩
  | @echo d chunk r calls hne hr hpaired ih =>
    -- neither the earlier calls nor this pair can have sent more than was received
    have hle := hpaired.length_sent_le c
    have hpos : 0 < chunk.bytes.length := List.length_pos_of_ne_nil hne
    by_cases hd : d.map Descr.acq = some c
    · obtain ⟨hrec, hsent⟩ := streams_echo hd chunk r calls
      rw [hrec, hsent, List.length_append, List.length_append, List.length_take] at hlen
      have hfull : r = .ok chunk.bytes.length := eq_ok_of_le_taken hr hpos (by omega)
      exact List.forall_mem_cons.mpr ⟨fun _ => hfull,
        List.forall_mem_cons.mpr ⟨trivial, ih (by omega)⟩⟩
    · obtain ⟨hrec, hsent⟩ := streams_echo_of_ne hd chunk r calls
      rw [hrec, hsent] at hlen
      exact List.forall_mem_cons.mpr ⟨fun h => absurd h hd,
        List.forall_mem_cons.mpr ⟨trivial, ih hlen⟩⟩

/-- **The echo in the record**: the streams agree exactly where every `send()` took all. -/
theorem Paired.sent_eq_iff (h : Paired calls) :
    sent c calls = received c calls ↔ AllSent c calls :=
  ⟨fun heq => h.allSent (congrArg List.length heq), h.sent_eq⟩

/-! ## The record of a run -/

/-- The record follows the grammar.  Before `send()` the last call is the `recv()` of the
chunk that the buffer holds. -/
def PairedAt (s : Server) : Pc → Prop
  | .send => ∃ chunk calls, s.calls = .recv (s.fds s.i) (.ok chunk) :: calls ∧
      chunk.bytes ≠ [] ∧ s.buffer.take s.len = chunk.bytes ∧ s.len = chunk.bytes.length ∧
      Paired calls
  | .socket | .ioctl | .bind | .listen | .select | .scan | .accept | .acceptIoctl | .recv
  | .closeConn | .sweep | .finished | .exited | .killed | .undefined => Paired s.calls

theorem paired_turn (ht : Turn s e s') (hk : Kernel s e) (h : PairedAt s e.pc) :
    PairedAt s' s'.pc := by
  cases ht with
  | socketError | socket | ioctl | bind | listenUndefined | listen | selectUndefined
  | scanUndefined | scanSkip | scanEnd | scanAgain | acceptUndefined | acceptAdd | closeNot
  | sweepUndefined | sweepSkip | sweepEnd => exact h
  | ioctlError | bindError | listenError | selectError | selectTimeout | selectReady
  | scanListen | scanConn | acceptError | accept | acceptIoctlError | recvError
  | closeUndefined | closeMax | close | sweepClose => exact .other id h
  | recvClosed data hd =>
    refine .other (fun hne => ?_) h
    exact hne (List.length_eq_zero_iff.mp hd)
  | recvData data hd =>
    have hne : data.bytes ≠ [] := fun hnil => hd (by rw [hnil]; rfl)
    exact ⟨data, s.calls, rfl, hne, List.take_left, rfl, h⟩
  | sendError | sendKilled =>
    obtain ⟨chunk, calls, hcalls, hne, hbuffer, -, hpaired⟩ := h
    show Paired (.send (s.fds s.i) (s.buffer.take s.len) _ :: s.calls)
    rw [hcalls, hbuffer]
    exact .echo hne (fun n hn => by cases hn) hpaired
  | send n =>
    obtain ⟨chunk, calls, hcalls, hne, hbuffer, hlen, hpaired⟩ := h
    have hn : n ≤ s.len := hk
    show Paired (.send (s.fds s.i) (s.buffer.take s.len) _ :: s.calls)
    rw [hcalls, hbuffer]
    refine .echo hne (fun m hm => ?_) hpaired
    cases hm
    omega

theorem paired_of_reachable (h : Reachable Steps Initial s) : PairedAt s s.pc := by
  refine h.invariant (I := fun s => PairedAt s s.pc) (fun s h0 => ?_) fun s e s' hs hstep => ?_
  · rw [h0.pc]
    show Paired s.calls
    rw [h0.calls]
    exact .nil
  · obtain ⟨hpc, ht, hk⟩ := turn_of_steps hstep
    rw [hpc] at hs
    exact paired_turn ht hk hs

/-! ## Why a connection is closed -/

/-- What the program closes connection `c` for: its peer has closed it, or a call on it
has failed. -/
def Call.Ends (c : ℕ) : Call → Prop
  | .recv d (.ok chunk) => d.map Descr.acq = some c ∧ chunk.bytes = []
  | .recv d (.error e) => d.map Descr.acq = some c ∧ e ≠ .ewouldblock
  | .send d _ (.error _) => d.map Descr.acq = some c
  | .send _ _ (.ok _) | .select _ | .readable .. | .accept _ | .close _ => False

/-- There was a reason to close connection `c`. -/
def Ended (c : ℕ) (calls : List Call) : Prop := ∃ x ∈ calls, x.Ends c

theorem Ended.mono {calls' : List Call} (h : Ended c calls) (hsub : calls ⊆ calls') :
    Ended c calls' := by
  obtain ⟨x, hmem, hx⟩ := h
  exact ⟨x, hsub hmem, hx⟩

/-- Without errors the only reason is the peer. -/
theorem Ended.peerClosed (h : Ended c calls) (hno : NoError c calls) (hall : AllSent c calls) :
    PeerClosed c calls := by
  obtain ⟨x, hmem, hx⟩ := h
  have hclean := hno x hmem
  have hsent := hall x hmem
  cases x with
  | recv d r =>
    cases r with
    | error e => exact absurd (hclean hx.1) hx.2
    | ok chunk => exact ⟨_, hmem, hx⟩
  | send d data r =>
    cases r with
    | error => cases hsent hx
    | ok => cases hx
  | select | readable | accept | close => cases hx

/-- Every accepted connection is open, or there was a reason to close it. -/
def OpenOrEnded (s : Server) : Prop :=
  ∀ c, 0 < c → c < s.acquired → (∃ sd, s.acqOf sd = some c) ∨ Ended c s.calls

/-- A step keeps this if what it closes has ended. -/
theorem OpenOrEnded.step (h : OpenOrEnded s)
    (hbook : s'.book = s.book ∨ ∃ x, s.book.step x = some s'.book) (hsub : s.calls ⊆ s'.calls)
    (hclose : ∀ a, s'.closed = some a :: s.closed → Ended a s'.calls) : OpenOrEnded s' := by
  intro c hpos hlt
  have hlt : c < s'.book.issued := hlt
  show (∃ sd, s'.book.held sd = some c) ∨ _
  rcases hbook with heq | ⟨x, hx⟩
  · rw [heq] at hlt ⊢
    exact (h c hpos hlt).imp_right fun hended => hended.mono hsub
  · rcases Book.step_cases hx with ⟨sd, hfree, heq⟩ | ⟨sd, a, hheld, heq⟩
    · rw [heq] at hlt ⊢
      have hlt : c < s.acquired + 1 := hlt
      by_cases hnew : c = s.acquired
      · exact Or.inl ⟨sd, by simp [Book.issue, Server.book, hnew]⟩
      · rcases h c hpos (by omega) with ⟨y, hy⟩ | hended
        · have hne : y ≠ sd := by
            rintro rfl
            exact absurd (hfree.symm.trans hy) (by simp)
          exact Or.inl ⟨y, by simpa [Book.issue, Server.book, hne] using hy⟩
        · exact Or.inr (hended.mono hsub)
    · have hreleased : s'.closed = some a :: s.closed := by
        rw [← hheld]
        exact congrArg Book.released heq
      rw [heq] at hlt ⊢
      rcases h c hpos hlt with ⟨y, hy⟩ | hended
      · by_cases hys : y = sd
        · have hca : some c = some a := (hys ▸ hy).symm.trans hheld
          exact Or.inr (hclose c (by rw [hca]; exact hreleased))
        · exact Or.inl ⟨y, held_release.mpr ⟨hys, hy⟩⟩
      · exact Or.inr (hended.mono hsub)

/-- A step that closes nothing keeps it. -/
theorem OpenOrEnded.keep (h : OpenOrEnded s)
    (hbook : s'.book = s.book ∨ ∃ x, s.book.step x = some s'.book) (hsub : s.calls ⊆ s'.calls)
    (hc : s'.closed = s.closed) : OpenOrEnded s' := by
  apply h.step hbook hsub
  intro a ha
  rw [hc] at ha
  exact absurd ha.symm (List.cons_ne_self _ _)

/-- `close_conn` is set for a reason only. -/
def KeptAt (s : Server) : Pc → Prop
  | .socket | .ioctl | .bind | .listen | .select | .scan | .accept | .acceptIoctl => OpenOrEnded s
  | .recv | .send => s.closeConn = false ∧ OpenOrEnded s
  | .closeConn =>
    (s.closeConn = true → ∀ c, s.acqOf s.i = some c → Ended c s.calls) ∧ OpenOrEnded s
  | .sweep | .finished | .exited | .killed | .undefined => True

theorem kept_turn (ht : Turn s e s') (hk : Kernel s e) (hinv : InvAt s e.pc)
    (h : KeptAt s e.pc) : KeptAt s' s'.pc := by
  have hbook := book_turn ht hk hinv
  cases ht with
  | socketError | ioctlError | bindError | listenError | listenUndefined | selectUndefined
  | selectError | selectTimeout | scanUndefined | scanEnd | acceptIoctlError | acceptUndefined
  | sendKilled | closeUndefined | sweepUndefined | sweepSkip | sweepClose | sweepEnd => trivial
  | socket | ioctl | bind | listen | scanSkip | scanAgain | acceptAdd =>
    have hold : OpenOrEnded s := h
    exact hold.keep hbook (List.Subset.refl _) rfl
  | selectReady | scanListen | acceptError | accept =>
    have hold : OpenOrEnded s := h
    exact hold.keep hbook (List.subset_cons_self _ _) rfl
  | scanConn =>
    have hold : OpenOrEnded s := h
    exact ⟨rfl, hold.keep hbook (List.subset_cons_self _ _) rfl⟩
  | recvError e =>
    obtain ⟨hc, hold⟩ := h
    refine ⟨fun hset c hi => ?_, hold.keep hbook (List.subset_cons_self _ _) rfl⟩
    have hset : (if e ≠ .ewouldblock then true else s.closeConn) = true := hset
    by_cases hblock : e = .ewouldblock
    · rw [if_neg (not_not.mpr hblock), hc] at hset
      cases hset
    · exact ⟨_, List.mem_cons_self, hi, hblock⟩
  | recvClosed data hd =>
    obtain ⟨-, hold⟩ := h
    refine ⟨fun _ c hi => ?_, hold.keep hbook (List.subset_cons_self _ _) rfl⟩
    exact ⟨_, List.mem_cons_self, hi, List.length_eq_zero_iff.mp hd⟩
  | recvData | send =>
    obtain ⟨hc, hold⟩ := h
    exact ⟨hc, hold.keep hbook (List.subset_cons_self _ _) rfl⟩
  | sendError e =>
    obtain ⟨-, hold⟩ := h
    refine ⟨fun _ c hi => ?_, hold.keep hbook (List.subset_cons_self _ _) rfl⟩
    exact ⟨_, List.mem_cons_self, hi⟩
  | closeNot =>
    obtain ⟨-, hold⟩ := h
    exact hold.keep hbook (List.Subset.refl _) rfl
  | closeMax hc | close hc =>
    obtain ⟨hended, hold⟩ := h
    apply hold.step hbook (List.subset_cons_self _ _)
    intro a ha
    -- the only close is that of the descriptor that is served
    have hi : s.acqOf s.i = some a := (List.cons.inj ha).1.symm ▸ rfl
    exact (hended hc a hi).mono (List.subset_cons_self _ _)

theorem kept_of_reachable (h : Reachable Steps Initial s) : KeptAt s s.pc := by
  refine h.induction (I := fun s => KeptAt s s.pc) (fun s h0 => ?_) fun s e s' hr hs hstep => ?_
  · rw [h0.pc]
    intro c _ hlt
    rw [h0.acquired] at hlt
    omega
  · obtain ⟨hpc, ht, hk⟩ := turn_of_steps hstep
    have hinv : InvAt s s.pc := inv_of_reachable hr
    rw [hpc] at hs hinv
    exact kept_turn ht hk hinv hs

/-- The echo on connection `c` is complete: the kernel has taken what the server has
received, in order and without gap, and the connection is open unless its peer has closed
it. -/
def EchoComplete (c : ℕ) (s : Server) : Prop :=
  sent c s.calls = received c s.calls ∧ ((∃ sd, s.acqOf sd = some c) ∨ PeerClosed c s.calls)

/-- **When the echo is complete**: at every return to `select()`, for every accepted
connection whose socket has shown no error but `EWOULDBLOCK`, if and only if every `send()`
on it took all it was given. -/
theorem echoComplete_iff (h : Reachable Steps Initial s) (hpc : s.pc = .select) (hpos : 0 < c)
    (hlt : c < s.acquired) (hno : NoError c s.calls) : EchoComplete c s ↔ AllSent c s.calls := by
  have hpaired := paired_of_reachable h
  have hkept := kept_of_reachable h
  rw [hpc] at hpaired hkept
  have hpaired : Paired s.calls := hpaired
  constructor
  · rintro ⟨heq, -⟩
    exact hpaired.sent_eq_iff.mp heq
  · intro hall
    refine ⟨hpaired.sent_eq_iff.mpr hall, ?_⟩
    exact (hkept c hpos hlt).imp_right fun hended => hended.peerClosed hno hall

/-! ## Short and refused sends -/

instance Call.SentAll.decidable (c : ℕ) : ∀ x : Call, Decidable (x.SentAll c)
  | .send d data r => inferInstanceAs (Decidable (d.map Descr.acq = some c → r = .ok data.length))
  | .select _ | .readable .. | .accept _ | .recv .. | .close _ => .isTrue trivial

instance Call.Clean.decidable (c : ℕ) : ∀ x : Call, Decidable (x.Clean c)
  | .recv d (.error e) | .send d _ (.error e) =>
    inferInstanceAs (Decidable (d.map Descr.acq = some c → e = .ewouldblock))
  | .recv _ (.ok _) | .send _ _ (.ok _) | .select _ | .readable .. | .accept _ | .close _ =>
    .isTrue trivial

instance Call.FoundClosed.decidable (c : ℕ) : ∀ x : Call, Decidable (x.FoundClosed c)
  | .recv d (.ok chunk) =>
    inferInstanceAs (Decidable (d.map Descr.acq = some c ∧ chunk.bytes = []))
  | .recv _ (.error _) | .send .. | .select _ | .readable .. | .accept _ | .close _ => .isFalse id

instance : Decidable (AllSent c calls) :=
  inferInstanceAs (Decidable (∀ x ∈ calls, x.SentAll c))

instance : Decidable (NoError c calls) := inferInstanceAs (Decidable (∀ x ∈ calls, x.Clean c))

instance : Decidable (PeerClosed c calls) :=
  inferInstanceAs (Decidable (∃ x ∈ calls, x.FoundClosed c))

/-- The client on 4 sends three bytes, and `send()` has the result `r`. -/
def threeBytes (r : Except Errno ℕ) : List Event :=
  oneClient ++ [.select 0 0 (.ok ⟨{4}, four_inRange⟩), .scan, .scan, .scan, .scan, .scan,
    .recv (.ok ⟨[1, 2, 3], by decide⟩), .send r]

/-- The kernel takes `n` of them. -/
def takes (n : ℕ) : List Event :=
  threeBytes (.ok n) ++ [.recv (.error .ewouldblock), .closeConn, .scan]

/-- Its send buffer is full. -/
def refuses : List Event := threeBytes (.error .ewouldblock) ++ [.closeConn, .scan]

theorem echoComplete_takes_all :
    (serve (takes 3)).pc = .select ∧ (serve (takes 3)).acquired = 2 ∧
      EchoComplete 1 (serve (takes 3)) :=
  ⟨by decide, by decide, (echoComplete_iff (reachable_serve (by decide)) (by decide) (by decide)
    (by decide) (by decide)).mpr (by decide)⟩

/-- A short `send()` loses the third byte, and a refused one all three and the connection
too. -/
theorem not_echoComplete_takes_refuses :
    (Reachable Steps Initial (serve (takes 2)) ∧ (serve (takes 2)).pc = .select ∧
      1 < (serve (takes 2)).acquired ∧ NoError 1 (serve (takes 2)).calls ∧
      ¬ EchoComplete 1 (serve (takes 2))) ∧
    (Reachable Steps Initial (serve refuses) ∧ (serve refuses).pc = .select ∧
      1 < (serve refuses).acquired ∧ NoError 1 (serve refuses).calls ∧
      ¬ EchoComplete 1 (serve refuses) ∧ (∀ sd, (serve refuses).acqOf sd ≠ some 1) ∧
      ¬ PeerClosed 1 (serve refuses).calls) := by
  refine ⟨⟨reachable_serve (by decide), by decide, by decide, by decide, ?_⟩,
    reachable_serve (by decide), by decide, by decide, by decide, ?_, fun sd hsd => ?_, by decide⟩
  · rintro ⟨hstreams, -⟩
    exact absurd hstreams (by decide)
  · rintro ⟨hstreams, -⟩
    exact absurd hstreams (by decide)
  · have hbook : Balanced (serve refuses).book := balanced_book (reachable_serve (by decide))
    exact absurd (hbook.count_held sd 1 hsd) (by decide)

end SimpleTests.Sockets
