import SimpleTests.UseSelectDescriptors

/-! # What `mysocket()` prints

The receive loop writes every chunk to the start of one buffer of 1024 bytes and prints
the buffer as a C string.  So what is printed ends at the first NUL, not behind the chunk:
a NUL in the data cuts it off, a chunk that is shorter than an earlier one is followed by
the rest of that one, and a chunk that fills the buffer has no end at all.

`printed_receive` connects the loop to `reprint`, the general form of this, and
`printed_eq_received_iff` says for which chunks the printed stream is the received one.
-/
namespace SimpleTests.Sockets
open CStrings

/-- What has been printed from the buffer; `none` if a C string was not terminated. -/
def printed : List SysCall → Option (List UInt8)
  | [] => some []
  | .print text :: earlier => (printed earlier).bind fun before => text.map (before ++ ·)
  | _ :: earlier => printed earlier

/-- What has been received. -/
def receivedBytes : List SysCall → List UInt8
  | [] => []
  | .recv _ (.ok data) _ :: earlier => receivedBytes earlier ++ data
  | _ :: earlier => receivedBytes earlier

/-- The chunks that successive `recv()` calls deliver before one returns 0 or less. -/
def delivered : List Reception → List (List UInt8)
  | [] | ⟨.error _, _⟩ :: _ => []
  | ⟨.ok data, _⟩ :: rest => if data.bytes.length ≤ 0 then [] else data.bytes :: delivered rest

/-- No chunk has a NUL or fills the buffer, and none is shorter than an earlier one. -/
def Printable (chunks : List (List UInt8)) : Prop :=
  (∀ c ∈ chunks, 0 ∉ c ∧ c.length < streamBufferSize) ∧ chunks.Pairwise (·.length ≤ ·.length)

variable {p q : Process} {a : Answers} {sock connFd : ℕ}

theorem printed_of_quiet (h : Makes SysCall.Quiet p q) : printed q.calls = printed p.calls := by
  apply h.view
  intro c calls hc
  cases c <;> first | rfl | cases hc

theorem receivedBytes_of_quiet (h : Makes SysCall.Quiet p q) :
    receivedBytes q.calls = receivedBytes p.calls := by
  apply h.view
  intro c calls hc
  cases c <;> first | rfl | cases hc

/-- A `recv()` without data leaves both streams as they are. -/
theorem streams_leave (a : Answers) (sock connFd : ℕ) (p : Process) {r : Except Errno Received}
    (hr : ∀ data, r = .ok data → data.bytes = []) :
    printed (leave a sock connFd (p.recv connFd r)).2.calls = printed p.calls ∧
    receivedBytes (leave a sock connFd (p.recv connFd r)).2.calls = receivedBytes p.calls := by
  have hquiet := (closes_leave a sock connFd (p.recv connFd r)).quiet
  refine ⟨(printed_of_quiet hquiet).trans rfl, (receivedBytes_of_quiet hquiet).trans ?_⟩
  rcases r with e | data
  · rfl
  · show receivedBytes p.calls ++ data.bytes = _
    rw [hr data rfl, List.append_nil]

/-- **The loop prints from one memory**: in every run of the receive loop the printed
stream grows by what `reprint` makes of the chunks, the received one by the chunks. -/
theorem streams_receive (a : Answers) (sock connFd : ℕ) (rs : List Reception)
    (buffer : StreamBuffer) (p : Process) :
    printed (receive a sock connFd rs buffer p).2.calls = (printed p.calls).bind (fun before =>
      (reprint buffer.bytes (delivered rs)).map (before ++ ·)) ∧
    receivedBytes (receive a sock connFd rs buffer p).2.calls =
      receivedBytes p.calls ++ (delivered rs).flatten := by
  induction rs generalizing buffer p with
  | nil => simp [receive, delivered, reprint]
  | cons x rest ih =>
    obtain ⟨r, write⟩ := x
    have done : ∀ {r : Except Errno Received}, (∀ data, r = .ok data → data.bytes = []) →
        printed (leave a sock connFd (p.recv connFd r)).2.calls = (printed p.calls).bind
          (fun before => (reprint buffer.bytes []).map (before ++ ·)) ∧
        receivedBytes (leave a sock connFd (p.recv connFd r)).2.calls =
          receivedBytes p.calls ++ [] := by
      intro r hr
      obtain ⟨hprint, hrecv⟩ := streams_leave a sock connFd p hr
      exact ⟨by simp [hprint, reprint], by simp [hrecv]⟩
    rcases r with e | data
    · apply done
      intro data hdata
      cases hdata
    · unfold receive delivered
      by_cases hd : data.bytes.length ≤ 0
      · rw [if_pos hd, if_pos hd]
        apply done
        intro data' hdata
        cases hdata
        exact List.length_eq_zero_iff.mp (Nat.le_zero.mp hd)
      · rw [if_neg hd, if_neg hd]
        obtain ⟨hprint, hrecv⟩ := ih (buffer.store data)
          ((p.recv connFd (.ok data)).call (.print (cString (buffer.store data).bytes)) write)
        -- both sides print the buffer and then the rest
        exact ⟨hprint.trans (bind_reprint_cons _), hrecv.trans (List.append_assoc _ _ _)⟩

theorem length_le_of_mem_delivered {rs : List Reception} {c : List UInt8}
    (h : c ∈ delivered rs) : c.length ≤ streamBufferSize := by
  induction rs with
  | nil => cases h
  | cons x rest ih =>
    obtain ⟨r, write⟩ := x
    rcases r with e | data
    · cases h
    · unfold delivered at h
      by_cases hd : data.bytes.length ≤ 0
      · rw [if_pos hd] at h
        cases h
      · rw [if_neg hd] at h
        rcases List.mem_cons.mp h with rfl | h
        · exact data.length_le
        · exact ih h

/-- **When the printed stream is the received one.**  For every run of `mysocket()`, with
chunks of 1 to 1024 arbitrary bytes in any number: the buffer has its NUL each time it is
printed, and what is printed is what was received, exactly if the chunks that come in are
printable. -/
theorem printed_eq_received_iff (a : Answers) (port : ℤ) (e : Errno) :
    printed (mysocket a port ⟨e, []⟩).2.calls =
        some (receivedBytes (mysocket a port ⟨e, []⟩).2.calls) ↔
      ((∃ addr sock connFd n, a.Connects addr sock connFd n) →
        Printable (delivered a.receptions)) := by
  rcases early_or_loop a port with hearly | ⟨addr, sock, connFd, n, hc, hloop⟩
  · have hquiet := hearly.quiet ⟨e, []⟩
    refine iff_of_true ?_ ?_
    · rw [printed_of_quiet hquiet, receivedBytes_of_quiet hquiet]
      rfl
    · rintro ⟨addr, sock, connFd, n, hc⟩
      exact absurd hc (hearly.not_connects addr sock connFd n)
  · obtain ⟨hprint, hrecv⟩ := streams_receive a sock connFd a.receptions .zero
      (Process.selected ⟨e, []⟩ a port addr sock connFd n)
    rw [hloop, hprint, hrecv]
    show (reprint StreamBuffer.zero.bytes (delivered a.receptions)).map ([] ++ ·) =
      some ([] ++ (delivered a.receptions).flatten) ↔ _
    have hid : (([] : List UInt8) ++ ·) = id := rfl
    rw [hid, Option.map_id, id, List.nil_append]
    -- the memory of the buffer holds nothing but 1024 NULs at first
    have hreprint : reprint ([] ++ List.replicate streamBufferSize 0) (delivered a.receptions) =
        some (delivered a.receptions).flatten ↔ _ :=
      reprint_eq_flatten_iff List.not_mem_nil fun c hc => by
        simpa using length_le_of_mem_delivered hc
    apply hreprint.trans
    simp only [List.length_nil, Nat.zero_add, Nat.zero_le, and_true]
    constructor
    · intro h _
      exact h
    · intro h
      exact h ⟨addr, sock, connFd, n, hc⟩

/-- A shorter chunk behind a longer one is printed with the end of that one. -/
theorem printed_connection_shorter :
    let q := (mysocket (connection [⟨.ok ⟨[104, 105], by decide⟩, none⟩,
      ⟨.ok ⟨[111], by decide⟩, none⟩]) 22649 ⟨.other 0, []⟩).2
    printed q.calls = some [104, 105, 111, 105] ∧ receivedBytes q.calls = [104, 105, 111] ∧
      printed q.calls ≠ some (receivedBytes q.calls) := ⟨rfl, rfl, by decide⟩

end SimpleTests.Sockets
