import SimpleTests.SelectServerProgress

/-! # One round of the `select()` server

A round is what `main()` does between one return of `select()` and the next call.  It should
serve the descriptors `select()` reported: all of them, each once, in increasing order, and
each as the connection it stood for when `select()` was called, whatever was accepted and
closed under the same numbers meanwhile (`Serves`).

A failing `ioctl()` ends the process.  Three other things keep a round from its end: `send()`
raises `SIGPIPE`; an accepted descriptor from `FD_SETSIZE` on is written outside of the set by
`FD_SET`; a client's data does not run out.  The code is prepared for none of them.
`round_serves_iff` says that these are all, and that the round still is what it should be
exactly if it has come to the last member by then.

The scan stops as soon as `desc_ready` is used up, and its bound `max_sd` moves while
it runs.  `Progress` says what it has done up to `lo`; with the count in `Waiting` it
follows that nothing is left where the scan stops.
-/
namespace SimpleTests.Sockets
open Transition FdSet

variable {s s' : Server} {e : Event} {W : FdSet} {F : ℕ → Option Descr}

/-- The descriptors served since the last `select()`, in order, with what they stood for
when they were. -/
def handled : List Call → List (ℕ × Option Descr)
  | [] => []
  | .select _ :: _ => []
  | .readable sd d :: calls => handled calls ++ [(sd, d)]
  | .accept _ :: calls | .recv .. :: calls | .send .. :: calls | .close _ :: calls =>
    handled calls

/-- The members of `W`, in increasing order, as `F` has them. -/
def reported (W : FdSet) (F : ℕ → Option Descr) : List (ℕ × Option Descr) :=
  W.members.map fun sd => (sd, F sd)

/-- `l` is a service of `W`: it has each member of `W` once, in increasing order, and each
as `F` has it. -/
structure Serves (W : FdSet) (F : ℕ → Option Descr) (l : List (ℕ × Option Descr)) : Prop where
  increasing : (l.map Prod.fst).Pairwise (· < ·)
  members : ∀ sd, sd ∈ l.map Prod.fst ↔ sd ∈ W
  same : ∀ sd d, (sd, d) ∈ l → d = F sd

theorem serves_reported (W : FdSet) (F : ℕ → Option Descr) : Serves W F (reported W F) := by
  have hfst : (reported W F).map Prod.fst = W.members := by
    simp [reported, Function.comp_def]
  refine ⟨?_, fun sd => ?_, fun sd d hmem => ?_⟩
  · rw [hfst]
    exact members_pairwise W
  · rw [hfst]
    exact mem_members
  · obtain ⟨x, -, hx⟩ := List.mem_map.mp hmem
    cases hx
    rfl

/-- What the scan has done of the working set `W` up to `lo`, where `F` are the
descriptors at the call of `select()`. -/
structure Progress (W : FdSet) (F : ℕ → Option Descr) (s : Server) (lo : ℕ) : Prop where
  working : s.workingSet = W
  done : handled s.calls = ((List.range lo).filter (· ∈ W)).map fun sd => (sd, F sd)
  same : ∀ sd ∈ W, lo ≤ sd → s.fds sd = F sd

/-- The state of a round at a place in `main()`. -/
def RoundAt (W : FdSet) (F : ℕ → Option Descr) (s : Server) : Pc → Prop
  | .scan => Progress W F s s.i
  | .accept | .acceptIoctl | .recv | .send | .closeConn | .killed | .undefined =>
    Progress W F s (s.i + 1)
  | .select | .sweep | .finished => handled s.calls = reported W F
  | .socket | .ioctl | .bind | .listen | .exited => False

/-- The events of a round in which `ioctl()` succeeds. -/
def Event.Inside : Event → Prop
  | .select .. | .acceptIoctl (.error _) => False
  | _ => True

theorem Progress.frame {lo : ℕ} (h : Progress W F s lo) (hw : s'.workingSet = s.workingSet)
    (hc : handled s'.calls = handled s.calls) (hf : s'.fds = s.fds) : Progress W F s' lo := by
  refine ⟨hw.trans h.working, hc.trans h.done, ?_⟩
  rw [hf]
  exact h.same

/-- The descriptors still to be served keep what they stand for, if one that changes is
not among them. -/
theorem Progress.update {lo sd : ℕ} (h : Progress W F s lo) (hw : s'.workingSet = s.workingSet)
    (hc : handled s'.calls = handled s.calls) {d : Option Descr}
    (hf : s'.fds = Function.update s.fds sd d) (hsd : sd ∈ W → sd < lo) :
    Progress W F s' lo := by
  refine ⟨hw.trans h.working, hc.trans h.done, fun x hx hle => ?_⟩
  have hne : x ≠ sd := by
    rintro rfl
    have := hsd hx
    omega
  rw [hf, Function.update_of_ne hne]
  exact h.same x hx hle

/-- A descriptor that is not reported is passed over. -/
theorem Progress.skip {lo : ℕ} (h : Progress W F s lo) (hlo : lo ∉ s.workingSet) :
    Progress W F s (lo + 1) := by
  refine ⟨h.working, ?_, fun x hx hle => h.same x hx (by omega)⟩
  rw [h.working] at hlo
  rw [h.done, List.range_succ, List.filter_append]
  simp [hlo]

/-- A descriptor that is reported is served, as the connection it was. -/
theorem Progress.take (h : Progress W F s s.i) (hi : s.i ∈ s.workingSet)
    (hw : s'.workingSet = s.workingSet) (hc : s'.calls = .readable s.i (s.fds s.i) :: s.calls)
    (hf : s'.fds = s.fds) : Progress W F s' (s.i + 1) := by
  rw [h.working] at hi
  refine ⟨hw.trans h.working, ?_, fun x hx hle => ?_⟩
  · rw [hc]
    show handled s.calls ++ [(s.i, s.fds s.i)] = _
    rw [h.done, h.same s.i hi (Nat.le_refl _), List.range_succ, List.filter_append]
    simp [hi]
  · rw [hf]
    exact h.same x hx (by omega)

/-- **Where the scan stops, nothing is left**: either `desc_ready` has counted all
members, or `max_sd`, which bounds them, is passed. -/
theorem Waiting.exhausted (h : Waiting s s.i) (hrep : Rep s none)
    (hdone : ¬ (s.i ≤ s.maxSd ∧ 0 < s.descReady)) : ∀ sd ∈ s.workingSet, sd < s.i := by
  intro sd hsd
  by_contra hge
  have hle : s.i ≤ sd := by omega
  have hmax : sd ≤ s.maxSd := hrep.greatest.2 (h.sub sd hsd hle)
  have hpos : 0 < (s.workingSet.atLeast s.i).card :=
    Finset.card_pos.mpr ⟨sd, mem_atLeast.mpr ⟨hsd, hle⟩⟩
  have hcount := h.count
  -- so the loop would not have stopped
  exact hdone ⟨by omega, by omega⟩

theorem Progress.finish (h : Progress W F s s.i) (hrep : Rep s none) (hwait : Waiting s s.i)
    (hdone : ¬ (s.i ≤ s.maxSd ∧ 0 < s.descReady)) : handled s.calls = reported W F := by
  have hall := hwait.exhausted hrep hdone
  rw [h.working] at hall
  rw [h.done, filter_range_eq_members hall]
  rfl

/-- **A step inside a round.** -/
theorem round_turn (ht : Turn s e s') (hk : Kernel s e) (hinv : InvAt s e.pc) (he : e.Inside)
    (h : RoundAt W F s e.pc) : RoundAt W F s' s'.pc := by
  have hundefined := undefined_of_turn ht hinv
  cases ht with
  | socketError | socket | ioctlError | ioctl | bindError | bind | listenError
  | listenUndefined | listen => exact False.elim h
  | selectUndefined | selectError | selectTimeout | selectReady | acceptIoctlError => exact he.elim
  | scanUndefined | closeUndefined | sweepUndefined =>
    rcases hundefined rfl with ⟨u, he, -⟩ | ⟨u, he, -⟩
    · cases he
    · cases he
  | scanSkip _ hi =>
    have hp : Progress W F s s.i := h
    exact (hp.skip hi).frame rfl rfl rfl
  | scanListen _ hi | scanConn _ hi =>
    have hp : Progress W F s s.i := h
    exact hp.take hi rfl rfl rfl
  | scanEnd hdone | scanAgain hdone =>
    have hp : Progress W F s s.i := h
    obtain ⟨hrep, hwait⟩ := hinv
    exact hp.finish hrep hwait hdone
  | acceptError =>
    have hp : Progress W F s (s.i + 1) := h
    exact hp.frame rfl rfl rfl
  | accept sd =>
    have hp : Progress W F s (s.i + 1) := h
    obtain ⟨hrep, -, hwait⟩ := hinv
    have hfresh : s.fds sd = none := hk
    refine hp.update rfl rfl rfl fun hsd => ?_
    -- what is still to be served is open
    by_contra hle
    rw [← hp.working] at hsd
    exact hrep.isOpen (hwait.sub sd hsd (by omega)) hfresh
  | acceptUndefined | acceptAdd =>
    have hp : Progress W F s (s.i + 1) := h
    obtain ⟨hrep, -, -, hwait⟩ := hinv
    refine hp.update rfl rfl rfl fun hsd => ?_
    -- what is still to be served is in the master set, the new descriptor is not
    by_contra hle
    rw [← hp.working] at hsd
    have hmem := hwait.sub s.newSd hsd (by omega)
    exact ((hrep.mem_iff s.newSd).mp hmem).2 rfl
  | recvError | recvClosed | recvData | sendError | send | sendKilled | closeNot =>
    have hp : Progress W F s (s.i + 1) := h
    exact hp.frame rfl rfl rfl
  | closeMax | close =>
    have hp : Progress W F s (s.i + 1) := h
    exact hp.update rfl rfl rfl fun _ => by omega
  | sweepSkip | sweepClose | sweepEnd => exact h

/-! ## What cuts a round short -/

/-- The result of a call that ends the service of a descriptor. -/
def Event.ends : Event → Bool
  | .accept (.error _) | .recv (.error _) | .send (.error _) => true
  | .recv (.ok data) => decide (data.bytes.length = 0)
  | _ => false

/-- How many services have come to their end. -/
def served (es : List Event) : ℕ := es.countP Event.ends

/-- The result of a call behind which the round does not go on, other than that of `ioctl()`. -/
def Event.Cuts : Event → Prop
  | .sigpipe => True
  | .accept (.ok sd) => fdSetSize ≤ sd
  | _ => False

def Uncut (es : List Event) : Prop := ∀ e ∈ es, ¬ e.Cuts

/-- What cuts the round short meets the last member of `W` only. -/
def CutsLast (W : FdSet) (es : List Event) : Prop :=
  ∀ k (hk : k < es.length), es[k].Cuts → served (es.take k) + 1 = W.bits.card

instance Event.Cuts.decidable : ∀ e, Decidable (Event.Cuts e)
  | .sigpipe => .isTrue trivial
  | .accept (.ok sd) => inferInstanceAs (Decidable (fdSetSize ≤ sd))
  | .socket _ | .ioctl _ | .bind _ | .listen _ | .select .. | .scan | .accept (.error _)
  | .acceptIoctl _ | .recv _ | .send _ | .closeConn | .sweep => .isFalse id

instance CutsLast.decidable (W : FdSet) (es : List Event) : Decidable (CutsLast W es) :=
  inferInstanceAs (Decidable (∀ k (hk : k < es.length), es[k].Cuts →
    served (es.take k) + 1 = W.bits.card))

theorem Uncut.snoc {es : List Event} (h : Uncut es) (he : ¬ e.Cuts) : Uncut (es ++ [e]) :=
  List.forall_mem_append.mpr ⟨h, List.forall_mem_singleton.mpr he⟩

theorem Uncut.cutsLast {es : List Event} (h : Uncut es) : CutsLast W es :=
  fun _ hk hcuts => absurd hcuts (h _ (List.getElem_mem hk))

/-- Where only one event cuts the round short. -/
theorem cutsLast_iff {pre post : List Event} (hpre : Uncut pre) (he : e.Cuts) (hpost : Uncut post) :
    CutsLast W (pre ++ e :: post) ↔ served pre + 1 = W.bits.card := by
  constructor
  · intro h
    have hlt : pre.length < (pre ++ e :: post).length := by simp
    have hlast := h pre.length hlt (by simpa using he)
    rwa [List.take_left] at hlast
  · intro h k hk hcuts
    rcases Nat.lt_trichotomy k pre.length with hlt | rfl | hgt
    · rw [List.getElem_append_left hlt] at hcuts
      exact absurd hcuts (hpre _ (List.getElem_mem hlt))
    · rw [List.take_left]
      exact h
    · have hmem : (pre ++ e :: post)[k] ∈ post := by
        rw [List.getElem_append_right hgt.le, List.getElem_cons, dif_neg (by omega)]
        exact List.getElem_mem _
      exact absurd hcuts (hpost _ hmem)

theorem served_snoc (es : List Event) (e : Event) :
    served (es ++ [e]) = served es + e.ends.toNat := by
  unfold served
  rw [List.countP_append, List.countP_singleton]
  cases e.ends <;> rfl

/-- The events `es` have brought a round to a place in `main()`. -/
def HistoryAt (es : List Event) (s : Server) : Pc → Prop
  | .select | .scan | .closeConn | .sweep | .finished =>
    Uncut es ∧ (handled s.calls).length = served es
  | .accept | .recv | .send => Uncut es ∧ (handled s.calls).length = served es + 1
  | .acceptIoctl => ∃ pre, es = pre ++ [.accept (.ok s.newSd)] ∧ Uncut pre ∧
    (handled s.calls).length = served pre + 1
  | .killed => ∃ pre, es = pre ++ [.sigpipe] ∧ Uncut pre ∧
    (handled s.calls).length = served pre + 1
  | .undefined => ∃ pre sd u, es = pre ++ [.accept (.ok sd), .acceptIoctl (.ok u)] ∧
    fdSetSize ≤ sd ∧ Uncut pre ∧ (handled s.calls).length = served pre + 1
  | .socket | .ioctl | .bind | .listen | .exited => False

/-- A step that cuts nothing short adds to the history. -/
theorem history_snoc {es : List Event} {n k : ℕ} (h : Uncut es ∧ n = served es + k)
    (he : ¬ e.Cuts) {m j : ℕ} (hm : m + k = n + j + e.ends.toNat) :
    Uncut (es ++ [e]) ∧ m = served (es ++ [e]) + j := by
  refine ⟨h.1.snoc he, ?_⟩
  rw [served_snoc]
  omega

/-- **A step inside a round, with what went before.** -/
theorem history_turn {es : List Event} (ht : Turn s e s') (hinv : InvAt s e.pc) (he : e.Inside)
    (h : HistoryAt es s e.pc) : HistoryAt (es ++ [e]) s' s'.pc := by
  have hundefined := undefined_of_turn ht hinv
  cases ht with
  | socketError | socket | ioctlError | ioctl | bindError | bind | listenError
  | listenUndefined | listen => exact False.elim h
  | selectUndefined | selectError | selectTimeout | selectReady | acceptIoctlError => exact he.elim
  | scanUndefined | closeUndefined | sweepUndefined =>
    rcases hundefined rfl with ⟨u, he, -⟩ | ⟨u, he, -⟩
    · cases he
    · cases he
  | scanSkip | scanEnd | scanAgain | closeNot | closeMax | close | sweepSkip | sweepClose
  | sweepEnd => exact history_snoc (k := 0) (j := 0) h id rfl
  | scanListen | scanConn =>
    refine history_snoc (k := 0) h id ?_
    exact List.length_append
  | acceptError => exact history_snoc (j := 0) h id rfl
  | accept sd => exact ⟨es, rfl, h⟩
  | acceptUndefined u hm =>
    obtain ⟨pre, rfl, hpre⟩ := h
    refine ⟨pre, s.newSd, u, List.append_assoc _ _ _, fdSet_eq_none hm, hpre⟩
  | acceptAdd u master hm =>
    obtain ⟨pre, rfl, hpre⟩ := h
    have hlt : s.newSd < fdSetSize := master.inRange s.newSd ((mem_fdSet hm).mpr (Or.inl rfl))
    have haccept : ¬ (Event.accept (.ok s.newSd)).Cuts := Nat.not_le_of_lt hlt
    exact history_snoc (k := 1) (history_snoc (k := 1) hpre haccept rfl) id rfl
  | recvError => exact history_snoc (j := 0) h id rfl
  | recvClosed data hd =>
    have hends : (Event.recv (.ok data)).ends = true := decide_eq_true hd
    refine history_snoc (j := 0) h id ?_
    rw [hends]
    rfl
  | recvData data hd =>
    have hends : (Event.recv (.ok data)).ends = false := decide_eq_false hd
    refine history_snoc (j := 1) h id ?_
    rw [hends]
    rfl
  | sendError => exact history_snoc (j := 0) h id rfl
  | send => exact history_snoc (j := 1) h id rfl
  | sendKilled => exact ⟨es, rfl, h⟩

/-! ## Whole rounds -/

/-- `es` are events behind a return of `select()` with `W` in the reachable state `s`, all
of the same round, and `s'` is the state they lead to. -/
structure Round (s : Server) (W : FdSet) (es : List Event) (s' : Server) : Prop where
  reachable : Reachable Steps Initial s
  run : ∃ gap slept, Run Steps s (.select gap slept (.ok W) :: es) s'
  inside : ∀ e ∈ es, e.pc ≠ .select

/-- The round is over: `main()` is back at `select()` or has left its loop, or the
program has stopped. -/
def Over (s : Server) : Prop := s.pc = .select ∨ s.pc = .sweep ∨ ∀ e s', ¬ Steps s e s'

/-- `es` are the events of a round that has no end, and `σ` the states it goes through. -/
structure EndlessRound (s : Server) (W : FdSet) (σ : ℕ → Server) (es : ℕ → Event) : Prop where
  reachable : Reachable Steps Initial s
  run : ∃ gap slept, Steps s (.select gap slept (.ok W)) (σ 0)
  forever : Forever Steps σ es
  inside : ∀ n, (es n).pc ≠ .select

/-- The client whose data does not run out is the last member of `W`. -/
def StaysLast (W : FdSet) (es : ℕ → Event) : Prop :=
  ∀ n, (∀ m ≥ n, (es m).echoes = true) → served ((List.range n).map es) + 1 = W.bits.card

theorem round_start (h : Reachable Steps Initial s) {gap slept : ℕ}
    (hs : Steps s (.select gap slept (.ok W)) s') :
    RoundAt W s.fds s' s'.pc ∧ HistoryAt [] s' s'.pc := by
  obtain ⟨hpc, ht, -⟩ := turn_of_steps hs
  have hinv : InvAt s s.pc := inv_of_reachable h
  rw [hpc] at hinv
  have hundefined := undefined_of_turn ht hinv
  have huncut : Uncut [] := List.forall_mem_nil _
  cases ht with
  | selectUndefined =>
    rcases hundefined rfl with ⟨u, he, -⟩ | ⟨u, he, -⟩
    · cases he
    · cases he
  | selectTimeout _ _ _ hzero =>
    refine ⟨?_, huncut, rfl⟩
    show [] = reported W s.fds
    rw [reported, members_eq_nil hzero]
    rfl
  | selectReady => exact ⟨⟨rfl, rfl, fun _ _ _ => rfl⟩, huncut, rfl⟩

/-- Where a round is after the events `es`. -/
theorem at_of_run {es : List Event} {m : Server} {gap slept : ℕ} (h : Reachable Steps Initial s)
    (hs : Steps s (.select gap slept (.ok W)) m) (hrun : Run Steps m es s')
    (hinside : ∀ e ∈ es, e.Inside) :
    RoundAt W s.fds s' s'.pc ∧ HistoryAt es s' s'.pc := by
  have hm : Reachable Steps Initial m := h.step hs
  have all : Reachable Steps Initial s' ∧ RoundAt W s.fds s' s'.pc ∧ HistoryAt es s' s'.pc := by
    refine hrun.invariant_of_history (I := fun es s' => Reachable Steps Initial s' ∧
      RoundAt W s.fds s' s'.pc ∧ HistoryAt es s' s'.pc) (fun es s₁ e s₂ he h₁ hs => ?_) hinside
      ⟨hm, round_start h hs⟩
    obtain ⟨hr, hat, hhist⟩ := h₁
    obtain ⟨hpc, ht, hk⟩ := turn_of_steps hs
    rw [hpc] at hat hhist
    have hinv : InvAt s₁ e.pc := hpc ▸ inv_of_reachable hr
    exact ⟨hr.step hs, round_turn ht hk hinv he hat, history_turn ht hinv he hhist⟩
  exact all.2

/-- A scan that has not come to its end has served what it should exactly if it has come to
the last member. -/
theorem Progress.serves_iff {lo : ℕ} (h : Progress W F s lo) :
    Serves W F (handled s.calls) ↔ (handled s.calls).length = W.bits.card := by
  have hfst : (handled s.calls).map Prod.fst = (List.range lo).filter (· ∈ W) := by
    rw [h.done, List.map_map]
    exact List.map_id _
  have hincreasing : ((handled s.calls).map Prod.fst).Pairwise (· < ·) := by
    rw [hfst]
    exact List.pairwise_lt_range.filter _
  have hlength : (handled s.calls).length = ((handled s.calls).map Prod.fst).toFinset.card := by
    rw [List.toFinset_card_of_nodup (hincreasing.imp Nat.ne_of_lt), List.length_map]
  constructor
  · intro hserves
    rw [hlength]
    congr 1
    ext sd
    rw [List.mem_toFinset]
    exact hserves.members sd
  · intro hcard
    have hsub : ((handled s.calls).map Prod.fst).toFinset ⊆ W.bits := by
      intro sd hsd
      rw [List.mem_toFinset, hfst, List.mem_filter] at hsd
      exact of_decide_eq_true hsd.2
    have heq := Finset.eq_of_subset_of_card_le hsub (by omega)
    refine ⟨hincreasing, fun sd => ?_, fun sd d hmem => ?_⟩
    · rw [← List.mem_toFinset, heq]
      rfl
    · rw [h.done] at hmem
      obtain ⟨x, -, hx⟩ := List.mem_map.mp hmem
      cases hx
      rfl

theorem inside_of_ne_select (he : e.pc ≠ .select) (hioctl : ∀ r, e ≠ .acceptIoctl (.error r)) :
    e.Inside := by
  cases e with
  | select => exact absurd rfl he
  | acceptIoctl r =>
    cases r with
    | error r => exact absurd rfl (hioctl r)
    | ok => trivial
  | _ => trivial

/-- Where a cut round stands, what it has served is what it should be exactly if the cut
meets the last member. -/
theorem serves_iff_cutsLast {pre post : List Event} (hp : Progress W F s (s.i + 1))
    (hlength : (handled s.calls).length = served pre + 1) (hpre : Uncut pre) (he : e.Cuts)
    (hpost : Uncut post) :
    Serves W F (handled s.calls) ↔ CutsLast W (pre ++ e :: post) := by
  rw [hp.serves_iff, cutsLast_iff hpre he hpost, hlength]

/-- A round that is over. -/
theorem round_iff {es : List Event} (h : Round s W es s')
    (hioctl : ∀ r, .acceptIoctl (.error r) ∉ es) (hover : Over s') :
    Serves W s.fds (handled s'.calls) ↔ CutsLast W es := by
  obtain ⟨gap, slept, hrun⟩ := h.run
  have hinside : ∀ e ∈ es, e.Inside := by
    intro e he
    apply inside_of_ne_select (h.inside e he)
    rintro r rfl
    exact hioctl r he
  have hat : RoundAt W s.fds s' s'.pc ∧ HistoryAt es s' s'.pc := by
    cases hrun with
    | cons hselect hrun => exact at_of_run h.reachable hselect hrun hinside
  obtain ⟨hat, hhist⟩ := hat
  have whole : handled s'.calls = reported W s.fds → Uncut es →
      (Serves W s.fds (handled s'.calls) ↔ CutsLast W es) := fun hall huncut =>
    iff_of_true (hall ▸ serves_reported W s.fds) huncut.cutsLast
  rcases hover with hpc | hpc | hstuck
  · rw [hpc] at hat hhist
    exact whole hat hhist.1
  · rw [hpc] at hat hhist
    exact whole hat hhist.1
  rcases stuck_iff.mp hstuck with hpc | hpc | hpc | hpc <;> rw [hpc] at hat hhist
  · exact whole hat hhist.1
  · exact hat.elim
  · obtain ⟨pre, rfl, hpre, hlength⟩ := hhist
    exact serves_iff_cutsLast hat hlength hpre trivial (List.forall_mem_nil _)
  · obtain ⟨pre, sd, u, rfl, hge, hpre, hlength⟩ := hhist
    exact serves_iff_cutsLast hat hlength hpre hge (List.forall_mem_singleton.mpr id)

/-- Data received and sent back serves no other descriptor. -/
theorem handled_of_echoes (ht : Turn s e s') (he : e.echoes = true) :
    handled s'.calls = handled s.calls := by
  cases ht with
  | recvData | send => rfl
  | recvClosed data hd => simp [Event.echoes, hd] at he
  | _ => cases he

namespace EndlessRound
variable {σ : ℕ → Server} {es : ℕ → Event}

theorem reachable_state (h : EndlessRound s W σ es) (n : ℕ) : Reachable Steps Initial (σ n) := by
  obtain ⟨gap, slept, hselect⟩ := h.run
  exact h.forever.invariant (fun s e s' hr hs => hr.step hs) (h.reachable.step hselect) n

/-- A failing `ioctl()` would be the end. -/
theorem inside_event (h : EndlessRound s W σ es) (n : ℕ) : (es n).Inside := by
  refine inside_of_ne_select (h.inside n) fun r hr => ?_
  have hstep := h.forever n
  rw [hr] at hstep
  obtain ⟨-, ht, -⟩ := turn_of_steps hstep
  have hexited : (σ (n + 1)).pc = .exited := by
    generalize σ (n + 1) = s' at ht
    cases ht
    rfl
  exact stuck_iff.mpr (Or.inr (Or.inl hexited)) _ _ (h.forever (n + 1))

theorem at_state (h : EndlessRound s W σ es) (n : ℕ) :
    RoundAt W s.fds (σ n) (σ n).pc ∧ HistoryAt ((List.range n).map es) (σ n) (σ n).pc := by
  obtain ⟨gap, slept, hselect⟩ := h.run
  apply at_of_run h.reachable hselect (h.forever.run n)
  intro e he
  obtain ⟨k, -, rfl⟩ := List.mem_map.mp he
  exact h.inside_event k

/-- All work but for one client comes to its end. -/
theorem settles (h : EndlessRound s W σ es) : ∃ n, ∀ m ≥ n, (es m).echoes = true := by
  rcases pays_turns.recurs_or_settles h.forever (h.reachable_state 0) with hrecurs | ⟨n, hn⟩
  · obtain ⟨m, -, hselect⟩ := hrecurs 0
    have hpc := h.inside m
    cases hes : es m with
    | select => exact absurd (by rw [hes]; rfl) hpc
    | _ => rw [hes] at hselect; cases hselect
  · refine ⟨n, fun m hm => ?_⟩
    have hworks := hn m hm
    simpa [Event.works] using hworks

/-- While data is received and sent back no other descriptor is served. -/
theorem handled_eq (h : EndlessRound s W σ es) {n m : ℕ} (hn : ∀ m ≥ n, (es m).echoes = true)
    (hm : n ≤ m) : handled (σ m).calls = handled (σ n).calls := by
  refine Forever.view_eq (f := fun s : Server => handled s.calls) (fun k hk => ?_) m hm
  obtain ⟨-, ht, -⟩ := turn_of_steps (h.forever k)
  exact handled_of_echoes ht (hn k hk)

theorem serves_iff (h : EndlessRound s W σ es) {n : ℕ} (hn : ∀ m ≥ n, (es m).echoes = true) :
    Serves W s.fds (handled (σ n).calls) ↔ served ((List.range n).map es) + 1 = W.bits.card := by
  obtain ⟨hround, hhist⟩ := h.at_state n
  obtain ⟨hpc, -⟩ := turn_of_steps (h.forever n)
  have hechoes := hn n (Nat.le_refl n)
  -- the client that is being served has not been counted yet
  have counted : Progress W s.fds (σ n) ((σ n).i + 1) →
      (handled (σ n).calls).length = served ((List.range n).map es) + 1 →
      (Serves W s.fds (handled (σ n).calls) ↔
        served ((List.range n).map es) + 1 = W.bits.card) := fun hp hlength => by
    rw [hp.serves_iff, hlength]
  rw [hpc] at hround hhist
  generalize es n = e at hround hhist hechoes
  cases e with
  | recv => exact counted hround hhist.2
  | send => exact counted hround hhist.2
  | _ => cases hechoes

end EndlessRound

/-- A round without an end. -/
theorem endlessRound_iff {σ : ℕ → Server} {es : ℕ → Event} (h : EndlessRound s W σ es) :
    (∃ n, ∀ m ≥ n, Serves W s.fds (handled (σ m).calls)) ↔ StaysLast W es := by
  constructor
  · rintro ⟨n₁, hserves⟩ n hn
    rw [← h.serves_iff hn, ← h.handled_eq hn (Nat.le_max_left n n₁)]
    exact hserves _ (Nat.le_max_right n n₁)
  · intro hlast
    obtain ⟨n, hn⟩ := h.settles
    refine ⟨n, fun m hm => ?_⟩
    rw [h.handled_eq hn hm, h.serves_iff hn]
    exact hlast n hn

/-- **When a round serves what `select()` reported**, with every result of its calls: the
descriptors served are the members of `W`, each once, in increasing order, and each of them
stood for the same acquisition as when `select()` was called.  Unless `ioctl()` fails, a round
that comes to its end does so exactly if each `SIGPIPE` and each descriptor that is too large
meets the last member of `W`; and one that has no end, exactly if the client whose data does
not run out is the last member. -/
theorem round_serves_iff (s : Server) (W : FdSet) :
    (∀ es s', Round s W es s' → (∀ r, .acceptIoctl (.error r) ∉ es) → Over s' →
      (Serves W s.fds (handled s'.calls) ↔ CutsLast W es)) ∧
    ∀ σ es, EndlessRound s W σ es →
      ((∃ n, ∀ m ≥ n, Serves W s.fds (handled (σ m).calls)) ↔ StaysLast W es) :=
  ⟨fun _ _ h hioctl hover => round_iff h hioctl hover, fun _ _ h => endlessRound_iff h⟩

/-! ## Rounds that go well and others -/

/-- The setup on descriptor 5, and a first round that accepts one client on 4. -/
def lowClient : List Event :=
  [.socket (.ok 5), .ioctl (.ok ()), .bind (.ok ()), .listen (.ok ()),
    .select 0 0 (.ok ⟨{5}, by decide⟩), .scan, .scan, .scan, .scan, .scan, .scan,
    .accept (.ok 4), .acceptIoctl (.ok ()), .accept (.error .ewouldblock), .scan]

/-- The state behind a round that follows `setup`. -/
def serveRound (setup : List Event) (W : FdSet) (es : List Event) : Server :=
  serve (setup ++ .select 0 0 (.ok W) :: es)

theorem round_serveRound {setup es : List Event}
    (hsetup : (replay (restrict Server.step Kernel) start setup).isSome = true)
    (hround : (replay (restrict Server.step Kernel) start
      (setup ++ .select 0 0 (.ok W) :: es)).isSome = true)
    (hinside : ∀ e ∈ es, e.pc ≠ .select) :
    Round (serve setup) W es (serveRound setup W es) :=
  ⟨reachable_serve hsetup, ⟨0, 0, run_serve hround⟩, hinside⟩

/-- A round in which the client on 4 is gone, and the next one gets its number. -/
def reuse : List Event :=
  [.scan, .scan, .scan, .scan, .scan, .recv (.ok ⟨[], nil_length_le⟩), .closeConn, .scan,
    .accept (.ok 4), .acceptIoctl (.ok ()), .accept (.error .ewouldblock), .scan]

/-- The client on 4 sends a byte, then another one, and closes its connection in between; the
first answer resets it. -/
def resetClient : List Event :=
  [.scan, .scan, .scan, .scan, .scan, .recv (.ok (.byte 7)), .send (.ok 1),
    .recv (.ok (.byte 8)), .sigpipe]

/-- The client on 4 is served, and then the same happens to the client on 5. -/
def resetLast : List Event :=
  [.scan, .scan, .scan, .scan, .scan, .recv (.ok (.byte 7)), .send (.ok 1),
    .recv (.error .ewouldblock), .closeConn, .scan, .recv (.ok (.byte 7)), .send (.ok 1),
    .recv (.ok (.byte 8)), .sigpipe]

/-- A round in which `accept()` returns a descriptor that is too large. -/
def tooLarge : List Event :=
  [.scan, .scan, .scan, .scan, .accept (.ok 1024), .acceptIoctl (.ok ())]

/-- The scan comes to a client after `k` turns, and its data does not run out. -/
def staying (k n : ℕ) : Event := if n < k then .scan else echoing ticks (n - k)

theorem forever_staying {m : Server} {k : ℕ}
    (hscan : ∀ n < k, (m.follow (staying k) n).pc = .scan)
    (hrecv : (m.follow (staying k) k).pc = .recv) :
    Forever Steps (m.follow (staying k)) (staying k) := by
  have echoes : ∀ n ≥ k, EchoingAt (m.follow (staying k) k) ticks (n - k)
      (m.follow (staying k) n) := by
    intro n hn
    induction n, hn using Nat.le_induction with
    | base =>
      rw [Nat.sub_self]
      exact ⟨hrecv, fun h0 => absurd h0 (by decide), rfl, rfl⟩
    | succ n hn ih =>
      have hnext := ih.next fun _ => List.cons_ne_nil _ _
      have hevent : staying k n = echoing ticks (n - k) := if_neg (by omega)
      rw [← hevent] at hnext
      rw [Nat.sub_add_comm hn]
      exact hnext
  intro n
  by_cases hn : n < k
  · have hevent : staying k n = .scan := if_pos hn
    rw [hevent]
    refine steps_iff.mpr ⟨hscan n hn, ?_, trivial⟩
    rw [Server.follow, hevent]
  · have hstep := (echoes n (by omega)).steps
    have hevent : staying k n = echoing ticks (n - k) := if_neg hn
    rw [hevent, Server.follow, hevent]
    exact hstep

theorem served_staying (k n : ℕ) : served ((List.range n).map (staying k)) = 0 := by
  refine List.countP_eq_zero.mpr fun e he => ?_
  obtain ⟨m, -, rfl⟩ := List.mem_map.mp he
  unfold staying echoing
  split
  · exact Bool.noConfusion
  · split
    · exact Bool.noConfusion
    · exact Bool.noConfusion

/-- `select()` returns with both clients there. -/
def polled (W : FdSet) : Server := (serve twoClients).react (.select 0 0 (.ok W))

theorem endlessRound_staying {k : ℕ} (hk : Kernel (serve twoClients) (.select 0 0 (.ok W)))
    (hscan : ∀ n < k, ((polled W).follow (staying k) n).pc = .scan)
    (hrecv : ((polled W).follow (staying k) k).pc = .recv) :
    EndlessRound (serve twoClients) W ((polled W).follow (staying k)) (staying k) where
  reachable := reachable_serve (by decide)
  run := by
    have hpc : (serve twoClients).pc = .select := by decide
    exact ⟨0, 0, steps_iff.mpr ⟨hpc, rfl, hk⟩⟩
  forever := forever_staying hscan hrecv
  inside n := by
    unfold staying echoing
    split
    · exact Pc.noConfusion
    · split
      · exact Pc.noConfusion
      · exact Pc.noConfusion

/-- A number used again does no harm, `SIGPIPE` none at the last client, and neither does the
last client if its data does not run out. -/
theorem round_serves_iff_last :
    Serves fourFive (serve lowClient).fds (handled (serveRound lowClient fourFive reuse).calls) ∧
    Serves fourFive (serve twoClients).fds
      (handled (serveRound twoClients fourFive resetLast).calls) ∧
    ∃ n, ∀ m ≥ n, Serves ⟨{5}, by decide⟩ (serve twoClients).fds
      (handled ((polled ⟨{5}, by decide⟩).follow (staying 6) m).calls) := by
  have hreuse : Round (serve lowClient) fourFive reuse (serveRound lowClient fourFive reuse) :=
    round_serveRound (by decide) (by decide) (by decide)
  have hreset : Round (serve twoClients) fourFive resetLast
      (serveRound twoClients fourFive resetLast) :=
    round_serveRound (by decide) (by decide) (by decide)
  have hkilled : (serveRound twoClients fourFive resetLast).pc = .killed := by decide
  refine ⟨?_, ?_, ?_⟩
  · have hover : Over (serveRound lowClient fourFive reuse) := Or.inl (by decide)
    exact ((round_serves_iff _ _).1 reuse _ hreuse (by simp [reuse]) hover).mpr (by decide)
  · have hover : Over (serveRound twoClients fourFive resetLast) :=
      Or.inr (Or.inr (stuck_iff.mpr (Or.inr (Or.inr (Or.inl hkilled)))))
    exact ((round_serves_iff _ _).1 resetLast _ hreset (by simp [resetLast]) hover).mpr
      (by decide)
  · have hendless : EndlessRound (serve twoClients) ⟨{5}, by decide⟩ _ (staying 6) :=
      endlessRound_staying (by decide) (by decide) (by decide)
    refine ((round_serves_iff _ _).2 _ _ hendless).mpr fun n _ => ?_
    rw [served_staying]
    rfl

/-- **What a round is not prepared for**: `SIGPIPE` while 5 is still to be served, though no
`ioctl()` fails and no descriptor is large; a descriptor that is too large, though `SIGPIPE` is
not raised; a client on 4 whose data does not run out. -/
theorem not_serves_resetClient :
    (¬ ∀ (s : Server) (W : FdSet) (es : List Event) (s' : Server), Round s W es s' →
      (∀ r, .acceptIoctl (.error r) ∉ es) → (∀ sd, .accept (.ok sd) ∈ es → sd < fdSetSize) →
        Over s' → Serves W s.fds (handled s'.calls)) ∧
    (¬ ∀ (s : Server) (W : FdSet) (es : List Event) (s' : Server), Round s W es s' →
      (∀ r, .acceptIoctl (.error r) ∉ es) → .sigpipe ∉ es →
        Over s' → Serves W s.fds (handled s'.calls)) ∧
    ¬ ∀ (s : Server) (W : FdSet) (σ : ℕ → Server) (es : ℕ → Event), EndlessRound s W σ es →
      ∃ n, ∀ m ≥ n, Serves W s.fds (handled (σ m).calls) := by
  refine ⟨fun h => ?_, fun h => ?_, fun h => ?_⟩
  · have hround : Round (serve twoClients) fourFive resetClient
        (serveRound twoClients fourFive resetClient) :=
      round_serveRound (by decide) (by decide) (by decide)
    have hkilled : (serveRound twoClients fourFive resetClient).pc = .killed := by decide
    have hserves := h _ _ _ _ hround (by simp [resetClient]) (by simp [resetClient])
      (Or.inr (Or.inr (stuck_iff.mpr (Or.inr (Or.inr (Or.inl hkilled))))))
    exact absurd ((hserves.members 5).mpr (by decide)) (by decide)
  · have hround : Round (serve oneClient) ⟨{3, 4}, by decide⟩ tooLarge
        (serveRound oneClient ⟨{3, 4}, by decide⟩ tooLarge) :=
      round_serveRound (by decide) (by decide) (by decide)
    have hundefined : (serveRound oneClient ⟨{3, 4}, by decide⟩ tooLarge).pc = .undefined := by
      decide
    have hserves := h _ _ _ _ hround (by simp [tooLarge]) (by simp [tooLarge])
      (Or.inr (Or.inr (stuck_iff.mpr (Or.inr (Or.inr (Or.inr hundefined))))))
    exact absurd ((hserves.members 4).mpr (by decide)) (by decide)
  · have hendless : EndlessRound (serve twoClients) fourFive _ (staying 5) :=
      endlessRound_staying (by decide) (by decide) (by decide)
    have hlast := (endlessRound_iff hendless).mp (h _ _ _ _ hendless)
    obtain ⟨n, hn⟩ := hendless.settles
    have hcard := hlast n hn
    rw [served_staying] at hcard
    exact absurd hcard (by decide)

end SimpleTests.Sockets
