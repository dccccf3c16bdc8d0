import SimpleTests.SelectServer

/-! # The representation invariant of the `select()` server

The server keeps its connections twice over: as the bits of `master_set` and as the
descriptors the kernel holds open for it; and of the set it keeps the maximum.
`Rep` says that the three agree.  `Inv` extends it to every place in `main()`: during
a round it adds what the scan has still to do (`Waiting`), during the final sweep
that exactly the descriptors not yet visited are open.

The operations on the set and on the descriptors have one lemma each; `inv_turn`
puts them together for all the branches, and `inv_of_reachable` is the invariant for
whole runs.
-/
namespace SimpleTests.Sockets
open Transition FdSet

variable {s s' : Server} {e : Event}

/-- `master_set` holds the open descriptors, except a `pending` one that `accept()` has
just returned; they are nonblocking; and `max_sd` is the greatest of them. -/
structure Rep (s : Server) (pending : Option ℕ) : Prop where
  mem_iff : ∀ sd, sd ∈ s.masterSet ↔ s.fds sd ≠ none ∧ pending ≠ some sd
  nonblocking : ∀ sd d, s.fds sd = some d → pending ≠ some sd → d.nonblocking = true
  listen : s.listenSd ∈ s.masterSet
  greatest : IsGreatest {sd | sd ∈ s.masterSet} s.maxSd

/-- What the scan has still to do: the bits of the working set from `lo` on belong to
open descriptors, and `desc_ready` counts them. -/
structure Waiting (s : Server) (lo : ℕ) : Prop where
  sub : ∀ sd ∈ s.workingSet, lo ≤ sd → sd ∈ s.masterSet
  count : s.descReady = (s.workingSet.atLeast lo).card

/-- The server is busy with the connection on descriptor `i`. -/
structure Handling (s : Server) : Prop where
  rep : Rep s none
  mem : s.i ∈ s.masterSet
  ne_listen : s.i ≠ s.listenSd
  waiting : Waiting s (s.i + 1)

/-- During the setup the listening socket is the only descriptor. -/
structure OnlyListen (s : Server) : Prop where
  listen : s.fds s.listenSd ≠ none
  other : ∀ sd, sd ≠ s.listenSd → s.fds sd = none

/-- In the final sweep the descriptors from `i` on are still open. -/
structure Sweeping (s : Server) : Prop where
  open_iff : ∀ sd, s.fds sd ≠ none ↔ sd ∈ s.masterSet ∧ s.i ≤ sd
  greatest : IsGreatest {sd | sd ∈ s.masterSet} s.maxSd

/-- The invariant at a place in `main()`. -/
def InvAt (s : Server) : Pc → Prop
  | .socket => (∀ sd, s.fds sd = none) ∧ s.acquired = 0
  | .ioctl => OnlyListen s
  | .bind | .listen =>
    OnlyListen s ∧ ∀ d, s.fds s.listenSd = some d → d.nonblocking = true
  | .select => Rep s none
  | .scan => Rep s none ∧ Waiting s s.i
  | .accept => Rep s none ∧ s.i = s.listenSd ∧ Waiting s (s.i + 1)
  | .acceptIoctl =>
    Rep s (some s.newSd) ∧ s.fds s.newSd ≠ none ∧ s.i = s.listenSd ∧ Waiting s (s.i + 1)
  | .recv | .send | .closeConn => Handling s
  | .sweep => Sweeping s
  | .finished => ∀ sd, s.fds sd = none
  | .exited | .killed | .undefined => True

/-- **The invariant.** -/
def Inv (s : Server) : Prop := InvAt s s.pc

/-! ## The set, its maximum and the descriptors -/

/-- `Rep` speaks of four fields only. -/
theorem Rep.frame {p : Option ℕ} (h : Rep s p) (hm : s'.masterSet = s.masterSet)
    (hf : s'.fds = s.fds) (hl : s'.listenSd = s.listenSd) (hx : s'.maxSd = s.maxSd) :
    Rep s' p := by
  refine ⟨?_, ?_, ?_, ?_⟩
  · rw [hm, hf]; exact h.mem_iff
  · rw [hf]; exact h.nonblocking
  · rw [hm, hl]; exact h.listen
  · rw [hm, hx]; exact h.greatest

theorem Rep.isOpen {p : Option ℕ} (h : Rep s p) {sd : ℕ} (hsd : sd ∈ s.masterSet) :
    s.fds sd ≠ none := ((h.mem_iff sd).mp hsd).1

/-- Before the first round the set holds the listening socket alone. -/
theorem OnlyListen.rep (h : OnlyListen s)
    (hn : ∀ d, s.fds s.listenSd = some d → d.nonblocking = true) {master : FdSet}
    (hm : fdSet s.listenSd fdZero = some master) :
    Rep { s with masterSet := master, maxSd := s.listenSd } none := by
  have hmem : ∀ sd, sd ∈ master ↔ sd = s.listenSd := by
    intro sd
    simp [mem_fdSet hm, notMem_fdZero]
  refine ⟨fun sd => ?_, fun sd d hd _ => ?_, (hmem _).mpr rfl, (hmem _).mpr rfl, ?_⟩
  · show sd ∈ master ↔ s.fds sd ≠ none ∧ none ≠ some sd
    by_cases hsd : sd = s.listenSd
    · simpa [hmem, hsd] using h.listen
    · simp [hmem, hsd, h.other sd hsd]
  · by_cases hsd : sd = s.listenSd
    · exact hn d (hsd ▸ hd)
    · exact absurd hd (by simp [h.other sd hsd])
  · intro sd hsd
    exact Nat.le_of_eq ((hmem sd).mp hsd)

/-- `accept()` leaves the set behind by the descriptor it returns. -/
theorem Rep.acquire (h : Rep s none) {sd : ℕ} (hfresh : s.fds sd = none) :
    Rep (s.acquire sd) (some sd) := by
  refine ⟨fun x => ?_, fun x d hd hne => ?_, h.listen, h.greatest⟩
  · show x ∈ s.masterSet ↔ _
    rw [h.mem_iff]
    by_cases hx : x = sd
    · simp [Server.acquire, hx, hfresh]
    · simp [Server.acquire, hx, Ne.symm hx]
  · have hx : x ≠ sd := fun hx => hne (congrArg some hx.symm)
    simp only [Server.acquire, Function.update_of_ne hx] at hd
    exact h.nonblocking x d hd (by simp)

/-- Adding the descriptor, once it is nonblocking, makes up for it. -/
theorem Rep.add (h : Rep s (some s.newSd)) (hopen : s.fds s.newSd ≠ none) {master : FdSet}
    (hm : fdSet s.newSd s.masterSet = some master) :
    Rep { s.setNonblocking s.newSd with
      masterSet := master, maxSd := if s.newSd > s.maxSd then s.newSd else s.maxSd } none := by
  have hmem : ∀ sd, sd ∈ master ↔ sd = s.newSd ∨ sd ∈ s.masterSet := fun sd => mem_fdSet hm
  refine ⟨fun sd => ?_, fun sd d hd _ => ?_, (hmem _).mpr (Or.inr h.listen), ?_, ?_⟩
  · show sd ∈ master ↔ _
    by_cases hsd : sd = s.newSd
    · simpa [Server.setNonblocking, hmem, hsd] using hopen
    · simp [Server.setNonblocking, hmem, hsd, h.mem_iff, Ne.symm hsd]
  · by_cases hsd : sd = s.newSd
    · simp only [Server.setNonblocking, hsd, Function.update_self, Option.map_eq_some_iff] at hd
      obtain ⟨d', -, rfl⟩ := hd
      rfl
    · simp only [Server.setNonblocking, Function.update_of_ne hsd] at hd
      exact h.nonblocking sd d hd (by simpa using Ne.symm hsd)
  · show (if s.newSd > s.maxSd then s.newSd else s.maxSd) ∈ master
    split
    · exact (hmem _).mpr (Or.inl rfl)
    · exact (hmem _).mpr (Or.inr h.greatest.1)
  · intro sd hsd
    show sd ≤ (if s.newSd > s.maxSd then s.newSd else s.maxSd)
    rcases (hmem sd).mp hsd with hnew | hold
    · split <;> omega
    · have hle : sd ≤ s.maxSd := h.greatest.2 hold
      split <;> omega

/-- `Handling` speaks of seven fields only. -/
theorem Handling.frame (h : Handling s) (hm : s'.masterSet = s.masterSet)
    (hf : s'.fds = s.fds) (hl : s'.listenSd = s.listenSd) (hx : s'.maxSd = s.maxSd)
    (hw : s'.workingSet = s.workingSet) (hd : s'.descReady = s.descReady) (hi : s'.i = s.i) :
    Handling s' := by
  refine ⟨h.rep.frame hm hf hl hx, ?_, ?_, ?_, ?_⟩
  · rw [hi, hm]; exact h.mem
  · rw [hi, hl]; exact h.ne_listen
  · rw [hw, hm, hi]; exact h.waiting.sub
  · rw [hd, hw, hi]; exact h.waiting.count

/-- Closing a connection takes it out of the set and of the descriptors. -/
theorem Handling.erase (h : Handling s) {master : FdSet}
    (hm : fdClr s.i s.masterSet = some master) {k : ℕ} (hk : IsGreatest {sd | sd ∈ master} k) :
    Rep { s.close s.i with masterSet := master, maxSd := k } none := by
  have hmem : ∀ sd, sd ∈ master ↔ sd ≠ s.i ∧ sd ∈ s.masterSet := fun sd => mem_fdClr hm
  refine ⟨fun sd => ?_, fun sd d hd hp => ?_, (hmem _).mpr ⟨h.ne_listen.symm, h.rep.listen⟩, hk⟩
  · show sd ∈ master ↔ _
    by_cases hsd : sd = s.i
    · simp [Server.close, hmem, hsd]
    · simp [Server.close, hmem, hsd, h.rep.mem_iff]
  · by_cases hsd : sd = s.i
    · simp [Server.close, hsd] at hd
    · simp only [Server.close, Function.update_of_ne hsd] at hd
      exact h.rep.nonblocking sd d hd hp

/-- **The search for the new maximum** succeeds when a connection is closed: it meets
the listening socket at the latest. -/
theorem Handling.lower (h : Handling s) {master : FdSet}
    (hm : fdClr s.i s.masterSet = some master) :
    ∃ k, master.lower s.maxSd = some k ∧ s.listenSd ≤ k ∧ IsGreatest {sd | sd ∈ master} k := by
  have hmem : ∀ sd, sd ∈ master ↔ sd ≠ s.i ∧ sd ∈ s.masterSet := fun sd => mem_fdClr hm
  have hlisten : s.listenSd ∈ master := (hmem _).mpr ⟨h.ne_listen.symm, h.rep.listen⟩
  have below : ∀ sd ∈ master, sd ≤ s.maxSd := fun sd hsd =>
    h.rep.greatest.2 ((hmem sd).mp hsd).2
  obtain ⟨k, hk, hkm, -, hle⟩ := lower_spec (lt_of_mem h.rep.greatest.1)
    ⟨s.listenSd, hlisten, below _ hlisten⟩
  exact ⟨k, hk, hle _ hlisten (below _ hlisten), hkm, fun sd hsd => hle sd hsd (below sd hsd)⟩

/-! ## The scan and the sweep -/

/-- The end of the rounds: all descriptors are open and none is visited. -/
theorem Rep.sweeping (h : Rep s none) (hm : s'.masterSet = s.masterSet)
    (hf : s'.fds = s.fds) (hx : s'.maxSd = s.maxSd) (hi : s'.i = 0) : Sweeping s' := by
  refine ⟨fun sd => ?_, ?_⟩
  · rw [hf, hm, hi, h.mem_iff]
    simp
  · rw [hm, hx]; exact h.greatest

theorem Waiting.skip {lo : ℕ} (h : Waiting s lo) (hlo : lo ∉ s.workingSet) :
    Waiting s (lo + 1) := by
  refine ⟨fun sd hsd hle => h.sub sd hsd (by omega), ?_⟩
  rw [h.count, atLeast_succ_of_notMem hlo]

theorem Waiting.take {lo : ℕ} (h : Waiting s lo) (hlo : lo ∈ s.workingSet) :
    Waiting { s with descReady := s.descReady - 1 } (lo + 1) := by
  refine ⟨fun sd hsd hle => h.sub sd hsd (by omega), ?_⟩
  show s.descReady - 1 = (s.workingSet.atLeast (lo + 1)).card
  have hcount := h.count
  have hsucc := card_atLeast_succ_of_mem hlo
  omega

theorem Sweeping.skip (h : Sweeping s) (hi : s.i ∉ s.masterSet) :
    Sweeping { s with i := s.i + 1 } := by
  refine ⟨fun sd => ?_, h.greatest⟩
  show s.fds sd ≠ none ↔ sd ∈ s.masterSet ∧ s.i + 1 ≤ sd
  rw [h.open_iff]
  refine and_congr_right fun hsd => ⟨fun hle => ?_, fun hle => by omega⟩
  exact Nat.lt_of_le_of_ne hle fun he => hi (he ▸ hsd)

theorem Sweeping.close (h : Sweeping s) : Sweeping { s.close s.i with i := s.i + 1 } := by
  refine ⟨fun sd => ?_, h.greatest⟩
  show Function.update s.fds s.i none sd ≠ none ↔ sd ∈ s.masterSet ∧ s.i + 1 ≤ sd
  by_cases hsd : sd = s.i
  · simp [hsd]
  · rw [Function.update_of_ne hsd, h.open_iff]
    exact and_congr_right fun _ => ⟨fun hle => by omega, fun hle => by omega⟩

theorem Sweeping.done (h : Sweeping s) (hdone : ¬ s.i ≤ s.maxSd) (sd : ℕ) : s.fds sd = none := by
  by_contra hopen
  obtain ⟨hmem, hle⟩ := (h.open_iff sd).mp hopen
  have hmax : sd ≤ s.maxSd := h.greatest.2 hmem
  omega

/-! ## The steps -/

/-- **Every step preserves the invariant.** -/
theorem inv_turn (ht : Turn s e s') (hk : Kernel s e) (h : InvAt s e.pc) : Inv s' := by
  cases ht with
  | socketError | ioctlError | bindError | listenError | acceptIoctlError => trivial
  | listenUndefined | selectUndefined | scanUndefined | acceptUndefined | sendKilled
  | closeUndefined | sweepUndefined => trivial
  | socket sd =>
    obtain ⟨hnone, -⟩ := h
    refine ⟨by simp [Server.acquire], fun x (hx : x ≠ sd) => ?_⟩
    simp [Server.acquire, hx, hnone]
  | ioctl =>
    have honly : OnlyListen s := h
    refine ⟨⟨by simpa [Server.setNonblocking] using honly.listen, fun x hx => ?_⟩, fun d hd => ?_⟩
    · have hx : x ≠ s.listenSd := hx
      simpa [Server.setNonblocking, hx] using honly.other x hx
    · simp only [Server.setNonblocking, Function.update_self, Option.map_eq_some_iff] at hd
      obtain ⟨d', -, rfl⟩ := hd
      rfl
  | bind =>
    obtain ⟨honly, hn⟩ := h
    exact ⟨⟨honly.listen, honly.other⟩, hn⟩
  | listen _ master hm =>
    obtain ⟨honly, hn⟩ := h
    exact (honly.rep hn hm).frame rfl rfl rfl rfl
  | selectError | selectTimeout => exact Rep.sweeping h rfl rfl rfl rfl
  | selectReady gap slept ready hr =>
    refine ⟨Rep.frame h rfl rfl rfl rfl, fun sd hsd _ => hk.1 sd hsd, ?_⟩
    exact congrArg Finset.card (atLeast_zero ready).symm
  | scanSkip _ hi =>
    obtain ⟨hrep, hwait⟩ := h
    have hw := hwait.skip hi
    exact ⟨hrep.frame rfl rfl rfl rfl, hw.sub, hw.count⟩
  | scanListen _ hi hl =>
    obtain ⟨hrep, hwait⟩ := h
    have hw := hwait.take hi
    exact ⟨hrep.frame rfl rfl rfl rfl, hl, hw.sub, hw.count⟩
  | scanConn _ hi hl =>
    obtain ⟨hrep, hwait⟩ := h
    have hw := hwait.take hi
    have hmem : s.i ∈ s.masterSet := hwait.sub s.i hi (Nat.le_refl _)
    exact ⟨hrep.frame rfl rfl rfl rfl, hmem, hl, hw.sub, hw.count⟩
  | scanEnd =>
    obtain ⟨hrep, -⟩ := h
    exact hrep.sweeping rfl rfl rfl rfl
  | scanAgain =>
    obtain ⟨hrep, -⟩ := h
    exact hrep.frame rfl rfl rfl rfl
  | acceptError =>
    obtain ⟨hrep, -, hw⟩ := h
    exact ⟨hrep.frame rfl rfl rfl rfl, hw.sub, hw.count⟩
  | accept sd =>
    obtain ⟨hrep, hl, hw⟩ := h
    have hfresh : s.fds sd = none := hk
    refine ⟨(hrep.acquire hfresh).frame rfl rfl rfl rfl, ?_, hl, hw.sub, hw.count⟩
    simp [Server.acquire]
  | acceptAdd _ master hm =>
    obtain ⟨hrep, hopen, hl, hw⟩ := h
    refine ⟨(hrep.add hopen hm).frame rfl rfl rfl rfl, hl, fun sd hsd hle => ?_, hw.count⟩
    exact (mem_fdSet hm).mpr (Or.inr (hw.sub sd hsd hle))
  | recvError | recvClosed | recvData | sendError | send =>
    exact Handling.frame h rfl rfl rfl rfl rfl rfl rfl
  | closeNot =>
    have hh : Handling s := h
    exact ⟨hh.rep.frame rfl rfl rfl rfl, hh.waiting.sub, hh.waiting.count⟩
  | closeMax _ master hm _ sd hsd =>
    have hh : Handling s := h
    -- the search ends at the new maximum
    obtain ⟨k, hk, -, hgreatest⟩ := hh.lower hm
    obtain rfl : k = sd := Option.some.inj (hk.symm.trans hsd)
    refine ⟨(hh.erase hm hgreatest).frame rfl rfl rfl rfl, fun x hx hle => ?_, hh.waiting.count⟩
    have hle : s.i + 1 ≤ x := hle
    exact (mem_fdClr hm).mpr ⟨by omega, hh.waiting.sub x hx hle⟩
  | close _ master hm hmax =>
    have hh : Handling s := h
    -- the maximum is another descriptor, and stays
    have hgreatest : IsGreatest {sd | sd ∈ master} s.maxSd :=
      ⟨(mem_fdClr hm).mpr ⟨Ne.symm hmax, hh.rep.greatest.1⟩,
        fun sd hsd => hh.rep.greatest.2 ((mem_fdClr hm).mp hsd).2⟩
    refine ⟨(hh.erase hm hgreatest).frame rfl rfl rfl rfl, fun x hx hle => ?_, hh.waiting.count⟩
    have hle : s.i + 1 ≤ x := hle
    exact (mem_fdClr hm).mpr ⟨by omega, hh.waiting.sub x hx hle⟩
  | sweepSkip _ hi =>
    have hw := Sweeping.skip h hi
    exact ⟨hw.open_iff, hw.greatest⟩
  | sweepClose =>
    have hw := Sweeping.close h
    exact ⟨hw.open_iff, hw.greatest⟩
  | sweepEnd hdone =>
    have hsweep : Sweeping s := h
    exact hsweep.done hdone

/-- **Indices go out of bounds only with a new descriptor.**  The others are members of the
set, or bounded by one. -/
theorem undefined_of_turn (ht : Turn s e s') (h : InvAt s e.pc) (hpc : s'.pc = .undefined) :
    (∃ u, e = .listen (.ok u) ∧ fdSetSize ≤ s.listenSd) ∨
    ∃ u, e = .acceptIoctl (.ok u) ∧ fdSetSize ≤ s.newSd := by
  cases ht with
  | listenUndefined u hm => exact Or.inl ⟨u, rfl, fdSet_eq_none hm⟩
  | acceptUndefined u hm => exact Or.inr ⟨u, rfl, fdSet_eq_none hm⟩
  | selectUndefined gap slept r hrange =>
    have hrep : Rep s none := h
    have hlt := lt_of_mem hrep.greatest.1
    omega
  | scanUndefined hcond hi =>
    obtain ⟨hrep, -⟩ := h
    have hlt := lt_of_mem hrep.greatest.1
    have hge := fdIsset_eq_none hi
    omega
  | closeUndefined _ hm =>
    have hh : Handling s := h
    obtain ⟨master, hclr⟩ := fdClr_of_mem hh.mem
    obtain ⟨k, hk, -⟩ := hh.lower hclr
    rcases hm with hnone | ⟨master', hclr', -, hnone⟩
    · exact nomatch hclr.symm.trans hnone
    · obtain rfl : master = master' := Option.some.inj (hclr.symm.trans hclr')
      exact nomatch hk.symm.trans hnone
  | sweepUndefined hcond hi =>
    have hsweep : Sweeping s := h
    have hlt := lt_of_mem hsweep.greatest.1
    have hge := fdIsset_eq_none hi
    omega
  | _ => exact Pc.noConfusion hpc

theorem inv_steps (h : Inv s) (hs : Steps s e s') : Inv s' := by
  obtain ⟨hpc, ht, hk⟩ := turn_of_steps hs
  apply inv_turn ht hk
  rw [← hpc]
  exact h

theorem inv_initial (h : Initial s) : Inv s := by
  unfold Inv
  rw [h.pc]
  exact ⟨h.fds, h.acquired⟩

/-- **The invariant holds in every reachable state.** -/
theorem inv_of_reachable (h : Reachable Steps Initial s) : Inv s :=
  h.invariant (fun _ => inv_initial) (fun _ _ _ => inv_steps)

/-- The invariant rule for the server: a further invariant is proved branch by branch,
with `Inv` at hand. -/
theorem invariant_of_turn {I : Server → Prop} (hInit : ∀ s, Initial s → I s)
    (hI : ∀ s e s', Turn s e s' → Kernel s e → InvAt s e.pc → I s → I s')
    (h : Reachable Steps Initial s) : I s := by
  apply h.induction hInit
  intro s e s' hr hs hstep
  obtain ⟨hpc, ht, hk⟩ := turn_of_steps hstep
  have hinv : InvAt s e.pc := hpc ▸ inv_of_reachable hr
  exact hI s e s' ht hk hinv hs

end SimpleTests.Sockets
