import SimpleTests.UseSelectDescriptors

/-! # `errno` in `mysocket()`

The receive loop looks at `errno` after every `recv()` that returns 0 or less.  But
`recv()` sets `errno` only when it returns -1.  When the peer closes the connection it
returns 0, and the value that the loop finds is a leftover: of the last call that failed,
or of the time before `mysocket()`.

`errnoAtEnd` follows the value through the loop.  `outcome_eq_iff` says exactly when the
value at the start shows in the outcome: two runs on the same answers differ if no call
has failed between the start and the end of the connection, and one of the two values at
the start is `EINTR`.
-/
namespace SimpleTests.Sockets

/-- `errno` when the receive loop is left, if it is. -/
def errnoAtEnd : List Reception → Errno → Option Errno
  | [], _ => none
  | ⟨.error e, _⟩ :: _, _ => some e
  | ⟨.ok data, write⟩ :: rest, errno =>
    if data.bytes.length ≤ 0 then some errno else errnoAtEnd rest (write.getD errno)

/-- The peer closes the connection, and no call in the loop has failed before. -/
def Undisturbed : List Reception → Prop
  | [] | ⟨.error _, _⟩ :: _ => False
  | ⟨.ok data, write⟩ :: rest => data.bytes.length ≤ 0 ∨ write = none ∧ Undisturbed rest

/-- The run ends with the peer closing the connection, no call has failed before, and the
listening socket can be closed. -/
structure Answers.LeavesErrno (a : Answers) : Prop where
  connects : ∃ addr sock connFd n, a.Connects addr sock connFd n
  greeting : a.greeting = none
  receptions : Undisturbed a.receptions
  closeSock : a.closeSock = .ok ()

variable {a : Answers}

/-- **The loop shows nothing of the process but `errno`.** -/
theorem outcome_receive (sock connFd : ℕ) (rs : List Reception) (buffer : StreamBuffer)
    (p : Process) : (receive a sock connFd rs buffer p).1 =
      ((errnoAtEnd rs p.errno).map fun e => .returned (a.status e)).getD .waiting := by
  induction rs generalizing buffer p with
  | nil => rfl
  | cons x rest ih =>
    obtain ⟨r, write⟩ := x
    rcases r with e | data
    · exact outcome_leave a sock connFd _
    · unfold receive errnoAtEnd
      by_cases hd : data.bytes.length ≤ 0
      · rw [if_pos hd, if_pos hd]
        exact outcome_leave a sock connFd _
      · rw [if_neg hd, if_neg hd]
        exact ih _ _

/-- **The start value is found at the end, or it does not matter.** -/
theorem errnoAtEnd_cases (rs : List Reception) :
    (Undisturbed rs ∧ ∀ e, errnoAtEnd rs e = some e) ∨
    (¬ Undisturbed rs ∧ ∀ e e', errnoAtEnd rs e = errnoAtEnd rs e') := by
  induction rs with
  | nil => exact Or.inr ⟨id, fun _ _ => rfl⟩
  | cons x rest ih =>
    obtain ⟨r, write⟩ := x
    rcases r with e | data
    · exact Or.inr ⟨id, fun _ _ => rfl⟩
    · by_cases hd : data.bytes.length ≤ 0
      · exact Or.inl ⟨Or.inl hd, fun e => if_pos hd⟩
      have next : ∀ e, errnoAtEnd (⟨.ok data, write⟩ :: rest) e =
          errnoAtEnd rest (write.getD e) := fun e => if_neg hd
      rcases write with _ | w
      · -- the turn leaves `errno` alone
        rcases ih with ⟨hrest, hsame⟩ | ⟨hrest, hsame⟩
        · exact Or.inl ⟨Or.inr ⟨rfl, hrest⟩, fun e => (next e).trans (hsame e)⟩
        · refine Or.inr ⟨fun h => ?_, fun e e' => ?_⟩
          · rcases h with h | ⟨-, h⟩
            · exact hd h
            · exact hrest h
          · rw [next, next]
            exact hsame e e'
      · -- a failed `write()` has set it
        refine Or.inr ⟨fun h => ?_, fun e e' => by rw [next, next]; rfl⟩
        rcases h with h | ⟨h, -⟩
        · exact hd h
        · cases h

/-- The status distinguishes `EINTR` from all other values, if it distinguishes any. -/
theorem status_eq_iff (hclose : a.closeSock = .ok ()) {e₁ e₂ : Errno} :
    a.status e₁ = a.status e₂ ↔ (e₁ = .eintr ↔ e₂ = .eintr) := by
  unfold Answers.status
  by_cases h₁ : e₁ = .eintr <;> by_cases h₂ : e₂ = .eintr <;> simp [h₁, h₂, hclose]

theorem status_of_error (hclose : a.closeSock ≠ .ok ()) (e : Errno) : a.status e = .failure :=
  if_neg fun h => hclose h.2

/-- **When the outcome does not depend on what `errno` was before**: two runs of
`mysocket()` on the same answers have the same outcome, unless the peer ends the
connection without any call having failed before, the listening socket can be closed, and
exactly one of the runs has started with `EINTR`. -/
theorem outcome_eq_iff (a : Answers) (port : ℤ) (e₁ e₂ : Errno) :
    (mysocket a port ⟨e₁, []⟩).1 = (mysocket a port ⟨e₂, []⟩).1 ↔
      ¬ (a.LeavesErrno ∧ ¬ (e₁ = .eintr ↔ e₂ = .eintr)) := by
  rcases early_or_loop a port with hearly | ⟨addr, sock, connFd, n, hc, hloop⟩
  · apply iff_of_true (hearly.outcome _ _)
    rintro ⟨⟨⟨addr, sock, connFd, n, hc⟩, -⟩, -⟩
    exact hearly.not_connects addr sock connFd n hc
  · rw [hloop, hloop, outcome_receive, outcome_receive]
    show ((errnoAtEnd a.receptions (a.greeting.getD e₁)).map _).getD _ =
      ((errnoAtEnd a.receptions (a.greeting.getD e₂)).map _).getD _ ↔ _
    rcases errnoAtEnd_cases a.receptions with ⟨hrs, hend⟩ | ⟨hrs, hend⟩
    · rw [hend, hend]
      show Outcome.returned _ = Outcome.returned _ ↔ _
      rw [Outcome.returned.injEq]
      by_cases hclose : a.closeSock = .ok ()
      · rw [status_eq_iff hclose]
        rcases hg : a.greeting with _ | w
        · have hleaves : a.LeavesErrno := ⟨⟨addr, sock, connFd, n, hc⟩, hg, hrs, hclose⟩
          simp [hleaves]
        · apply iff_of_true Iff.rfl
          rintro ⟨hleaves, -⟩
          exact nomatch hg.symm.trans hleaves.greeting
      · rw [status_of_error hclose, status_of_error hclose]
        exact iff_of_true rfl fun h => hclose h.1.closeSock
    · rw [hend _ (a.greeting.getD e₂)]
      exact iff_of_true rfl fun h => hrs h.1.receptions

/-- The peer closes the connection at once.  If `EINTR` is left over from the time before,
the run is a success, otherwise a failure. -/
theorem outcome_ne_connection :
    let a := connection [⟨.ok ⟨[], by decide⟩, none⟩]
    (mysocket a 22649 ⟨.eintr, []⟩).1 = .returned .success ∧
    (mysocket a 22649 ⟨.other 0, []⟩).1 = .returned .failure ∧
    (mysocket a 22649 ⟨.eintr, []⟩).1 ≠ (mysocket a 22649 ⟨.other 0, []⟩).1 :=
  ⟨rfl, rfl, by decide⟩

end SimpleTests.Sockets
