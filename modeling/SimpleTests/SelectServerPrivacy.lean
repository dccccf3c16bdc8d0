import SimpleTests.SelectServerEcho

/-! # Whose bytes the `select()` server sends

All connections share one buffer and one length.  Still no client is sent a byte of
another one, or of an earlier connection under its descriptor number: what a `send()` is
given is the chunk that the call before it has received, on the same connection.

This is the grammar of the record (`Paired`), read at each `send()`.  Over a whole run the
bytes sent on a connection are made of prefixes of its own chunks, in order
(`echo_private`).
-/
namespace SimpleTests.Sockets
open Transition

variable {s : Server} {c : ℕ} {calls : List Call}

/-- The chunks that `recv()` has delivered on connection `c`, in order. -/
def chunks (c : ℕ) : List Call → List (List UInt8)
  | [] => []
  | .recv d (.ok chunk) :: calls =>
    if d.map Descr.acq = some c ∧ chunk.bytes ≠ [] then chunks c calls ++ [chunk.bytes]
    else chunks c calls
  | _ :: calls => chunks c calls

/-- Each `send()` is given the chunk that the call before it has received on the same
connection. -/
def SendsReceived (calls : List Call) : Prop :=
  ∀ later d data r earlier, calls = later ++ .send d data r :: earlier →
    ∃ chunk before, earlier = .recv d (.ok chunk) :: before ∧ data = chunk.bytes

/-- The bytes sent on connection `c` are prefixes of its chunks, one behind the other. -/
def SentPieces (c : ℕ) (calls : List Call) : Prop :=
  ∃ pieces, List.Forall₂ (· <+: ·) pieces (chunks c calls) ∧ sent c calls = pieces.flatten

theorem chunks_other {x : Call} (hx : ¬ x.MovesData) : chunks c (x :: calls) = chunks c calls := by
  cases x with
  | recv d r =>
    cases r with
    | error => rfl
    | ok chunk =>
      have hempty : chunk.bytes = [] := by simpa [Call.MovesData] using hx
      exact if_neg fun h => h.2 hempty
  | send => exact absurd trivial hx
  | select | readable | accept | close => rfl

theorem SendsReceived.cons {x : Call} (h : SendsReceived calls)
    (hx : ∀ d data r, x = .send d data r →
      ∃ chunk before, calls = .recv d (.ok chunk) :: before ∧ data = chunk.bytes) :
    SendsReceived (x :: calls) := by
  intro later d data r earlier heq
  rcases List.cons_eq_append_iff.mp heq with ⟨-, heq⟩ | ⟨later', -, heq⟩
  · obtain ⟨hsend, rfl⟩ := List.cons.inj heq
    exact hx d data r hsend.symm
  · exact h later' d data r earlier heq

theorem Paired.sendsReceived (h : Paired calls) : SendsReceived calls := by
  induction h with
  | nil =>
    intro later d data r earlier heq
    simp at heq
  | other hx _ ih =>
    apply ih.cons
    intro d data r heq
    rw [heq] at hx
    exact absurd trivial hx
  | @echo d chunk r calls hne hr _ ih =>
    refine (ih.cons fun d data r heq => (by cases heq)).cons fun d' data r' heq => ?_
    cases heq
    exact ⟨chunk, calls, rfl, rfl⟩

/-- A chunk is received, and a prefix of it is sent. -/
theorem SentPieces.append {calls' : List Call} {chunk piece : List UInt8}
    (h : SentPieces c calls) (hpiece : piece <+: chunk)
    (hchunks : chunks c calls' = chunks c calls ++ [chunk])
    (hsent : sent c calls' = sent c calls ++ piece) : SentPieces c calls' := by
  obtain ⟨pieces, hall, heq⟩ := h
  refine ⟨pieces ++ [piece], ?_, ?_⟩
  · rw [hchunks]
    exact List.rel_append hall (.cons hpiece .nil)
  · rw [hsent, heq, List.flatten_append, List.flatten_singleton]

theorem Paired.sentPieces (h : Paired calls) (c : ℕ) : SentPieces c calls := by
  induction h with
  | nil => exact ⟨[], .nil, rfl⟩
  | other hx _ ih =>
    obtain ⟨pieces, hall, heq⟩ := ih
    refine ⟨pieces, ?_, ?_⟩
    · rw [chunks_other hx]
      exact hall
    · rw [sent_other hx]
      exact heq
  | @echo d chunk r calls hne hr _ ih =>
    by_cases hd : d.map Descr.acq = some c
    · obtain ⟨-, hsent⟩ := streams_echo hd chunk r calls
      exact ih.append (List.take_prefix _ _) (if_pos ⟨hd, hne⟩) hsent
    · obtain ⟨-, hsent⟩ := streams_echo_of_ne hd chunk r calls
      obtain ⟨pieces, hall, heq⟩ := ih
      refine ⟨pieces, ?_, hsent.trans heq⟩
      show List.Forall₂ _ pieces (if d.map Descr.acq = some c ∧ chunk.bytes ≠ [] then _ else _)
      rw [if_neg fun h => hd h.1]
      exact hall

/-- Between a `recv()` and its `send()` the chunk has not been sent from yet. -/
theorem sends_of_pairedAt {pc : Pc} (h : PairedAt s pc) :
    SendsReceived s.calls ∧ ∀ c, SentPieces c s.calls := by
  have done : Paired s.calls → SendsReceived s.calls ∧ ∀ c, SentPieces c s.calls :=
    fun hpaired => ⟨hpaired.sendsReceived, hpaired.sentPieces⟩
  cases pc with
  | send =>
    obtain ⟨chunk, calls, hcalls, hne, -, -, hpaired⟩ := h
    rw [hcalls]
    refine ⟨hpaired.sendsReceived.cons fun d data r heq => (by cases heq), fun c => ?_⟩
    by_cases hd : (s.fds s.i).map Descr.acq = some c
    · exact (hpaired.sentPieces c).append List.nil_prefix (if_pos ⟨hd, hne⟩)
        (List.append_nil _).symm
    · obtain ⟨pieces, hall, heq⟩ := hpaired.sentPieces c
      refine ⟨pieces, ?_, heq⟩
      show List.Forall₂ _ pieces (if (s.fds s.i).map Descr.acq = some c ∧ chunk.bytes ≠ []
        then _ else _)
      rw [if_neg fun h => hd h.1]
      exact hall
  | _ => exact done h

/-- **No byte goes to the wrong client**: in every run, with any number of connections,
descriptor numbers used again, and whatever `send()` takes, each `send()` is made on an open
connection and is given exactly the chunk that the call before it has received on that
connection; and all that is sent on a connection are prefixes of its own chunks, in
order. -/
theorem echo_private (h : Reachable Steps Initial s) :
    (∀ d data r, .send d data r ∈ s.calls → ∃ conn : Descr, d = some conn) ∧
    SendsReceived s.calls ∧ ∀ c, SentPieces c s.calls := by
  refine ⟨?_, sends_of_pairedAt (paired_of_reachable h)⟩
  intro d data r hmem
  obtain ⟨conn, hconn, -⟩ := noneBlocks_of_reachable h _ hmem
  exact ⟨conn, hconn⟩

/-- The client on 4 sends three bytes, two of which the kernel takes back, and then the one on 5
sends a single byte, which covers only the first of them in the buffer. -/
def shared : List Event :=
  twoClients ++ [.select 0 0 (.ok fourFive), .scan, .scan, .scan, .scan, .scan,
    .recv (.ok ⟨[1, 2, 3], three_length_le⟩), .send (.ok 2), .recv (.error .ewouldblock), .closeConn,
    .scan, .recv (.ok (.byte 9)), .send (.ok 1), .recv (.error .ewouldblock), .closeConn,
    .scan]

theorem echo_private_shared :
    Run Steps start shared (serve shared) ∧ (serve shared).buffer.take 3 = [9, 2, 3] ∧
      sent 1 (serve shared).calls = [1, 2] ∧ sent 2 (serve shared).calls = [9] ∧
      SendsReceived (serve shared).calls ∧ SentPieces 1 (serve shared).calls ∧
      SentPieces 2 (serve shared).calls := by
  have hreach : Reachable Steps Initial (serve shared) := reachable_serve (by decide)
  obtain ⟨-, hsends, hpieces⟩ := echo_private hreach
  exact ⟨run_start (by decide), by decide, by decide, by decide, hsends, hpieces 1, hpieces 2⟩

end SimpleTests.Sockets
