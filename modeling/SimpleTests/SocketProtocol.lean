import SimpleTests.TransitionRuns
import Mathlib.Logic.Function.Basic

/-! # The order of calls on sockets

A socket is created, bound and set to listen, or connected, and what may be called on it
depends on how far it is.  `Table` says how far each descriptor is, `Op` is a call on
sockets with its result, and `Table.step` is the protocol: it has no next state for a call
out of order.  A program keeps to the protocol if its calls are a run of it.

A failed call is a call as well, and has to be in order.
-/
namespace SimpleTests.SocketProtocol
open Transition

variable {K : Type*} [DecidableEq K]

/-- How far an open socket is. -/
inductive Phase
  | created
  | bound
  | listening
  | connected
  deriving DecidableEq

/-- The open sockets. -/
abbrev Table (K : Type*) := K → Option Phase

/-- The calls on sockets.  `ok` tells whether a call has succeeded. -/
inductive Op (K : Type*)
  | socket (k : K)
  | bind (k : K) (ok : Bool)
  | listen (k : K) (ok : Bool)
  /-- `conn` is the connection that has been accepted. -/
  | accept (k : K) (conn : Option K)
  | connect (k : K) (ok : Bool)
  /-- Data of a connection is received or sent. -/
  | transfer (k : K)
  /-- A datagram is sent to an address. -/
  | datagram (k : K)
  /-- Options and modes. -/
  | configure (k : K)
  /-- Waiting for descriptors to get ready. -/
  | poll (ks : List K)
  | close (k : K)

/-- The descriptor that has to be open for a call. -/
def Op.on : Op K → Option K
  | .bind k _ | .listen k _ | .accept k _ | .connect k _ | .transfer k | .datagram k
  | .configure k | .close k => some k
  | .socket _ | .poll _ => none

/-- The descriptor that a call opens. -/
def Op.opens : Op K → Option K
  | .socket k | .accept _ (some k) => some k
  | _ => none

namespace Table

/-- Nothing is open. -/
def empty : Table K := fun _ => none

/-- The protocol. -/
def step (t : Table K) : Op K → Option (Table K)
  | .socket k => if t k = none then some (Function.update t k (some .created)) else none
  | .bind k ok =>
    if t k = some .created then some (if ok then Function.update t k (some .bound) else t)
    else none
  | .listen k ok =>
    if t k = some .bound then some (if ok then Function.update t k (some .listening) else t)
    else none
  | .accept k none => if t k = some .listening then some t else none
  | .accept k (some conn) =>
    if t k = some .listening ∧ t conn = none then
      some (Function.update t conn (some .connected))
    else none
  | .connect k ok =>
    if t k = some .created ∨ t k = some .bound then
      some (if ok then Function.update t k (some .connected) else t)
    else none
  | .transfer k => if t k = some .connected then some t else none
  | .datagram k => if t k = some .created ∨ t k = some .bound then some t else none
  | .configure k => if t k = none then none else some t
  | .poll ks =>
    if ∀ k ∈ ks, t k = some .listening ∨ t k = some .connected then some t else none
  | .close k => if t k = none then none else some (Function.update t k none)

variable {t : Table K} {k : K}

theorem step_socket (h : t k = none) :
    t.step (.socket k) = some (Function.update t k (some .created)) := if_pos h

theorem step_bind (h : t k = some .created) (ok : Bool) :
    t.step (.bind k ok) = some (if ok then Function.update t k (some .bound) else t) := if_pos h

theorem step_listen (h : t k = some .bound) (ok : Bool) :
    t.step (.listen k ok) = some (if ok then Function.update t k (some .listening) else t) :=
  if_pos h

theorem step_accept_none (h : t k = some .listening) : t.step (.accept k none) = some t := if_pos h

theorem step_accept {conn : K} (h : t k = some .listening) (hconn : t conn = none) :
    t.step (.accept k (some conn)) = some (Function.update t conn (some .connected)) :=
  if_pos ⟨h, hconn⟩

theorem step_connect (h : t k = some .created ∨ t k = some .bound) (ok : Bool) :
    t.step (.connect k ok) = some (if ok then Function.update t k (some .connected) else t) :=
  if_pos h

theorem step_transfer (h : t k = some .connected) : t.step (.transfer k) = some t := if_pos h

theorem step_datagram (h : t k = some .created ∨ t k = some .bound) :
    t.step (.datagram k) = some t := if_pos h

theorem step_configure (h : t k ≠ none) : t.step (.configure k) = some t := if_neg h

theorem step_poll {ks : List K} (h : ∀ k ∈ ks, t k = some .listening ∨ t k = some .connected) :
    t.step (.poll ks) = some t := if_pos h

theorem step_close (h : t k ≠ none) : t.step (.close k) = some (Function.update t k none) :=
  if_neg h

/-- A call on a descriptor that is not open is out of order. -/
theorem step_eq_none {o : Op K} (hon : o.on = some k) (h : t k = none) : t.step o = none := by
  have hne (phase : Phase) : t k ≠ some phase := by
    rw [h]
    exact nofun
  cases o with
  | socket | poll => cases hon
  | bind | listen | transfer =>
    cases hon
    exact if_neg (hne _)
  | connect | datagram =>
    cases hon
    exact if_neg fun h' => h'.elim (hne _) (hne _)
  | configure | close =>
    cases hon
    exact if_pos h
  | accept k conn =>
    cases hon
    cases conn with
    | none => exact if_neg (hne _)
    | some conn => exact if_neg fun h' => hne _ h'.1

/-- A descriptor that is not open stays so, if it is not the one that is opened. -/
theorem step_closed {o : Op K} {t' : Table K} (hstep : t.step o = some t') (h : t k = none)
    (hopens : ∀ k', o.opens = some k' → k' ≠ k) : t' k = none := by
  have update (k' : K) (phase : Option Phase) (hk : k' ≠ k) :
      Function.update t k' phase k = none := by
    rw [Function.update_of_ne hk.symm, h]
  have open_ne {k' : K} {phase : Phase} (hopen : t k' = some phase) : k' ≠ k := by
    rintro rfl
    rw [h] at hopen
    cases hopen
  cases o with
  | socket k' =>
    obtain ⟨-, heq⟩ := Option.ite_none_right_eq_some.mp hstep
    cases heq
    exact update _ _ (hopens _ rfl)
  | bind k' ok | listen k' ok =>
    obtain ⟨hopen, heq⟩ := Option.ite_none_right_eq_some.mp hstep
    cases ok <;> cases heq
    · exact h
    · exact update _ _ (open_ne hopen)
  | connect k' ok =>
    obtain ⟨hopen, heq⟩ := Option.ite_none_right_eq_some.mp hstep
    cases ok <;> cases heq
    · exact h
    · exact update _ _ (hopen.elim open_ne open_ne)
  | accept k' conn =>
    cases conn with
    | none =>
      obtain ⟨-, heq⟩ := Option.ite_none_right_eq_some.mp hstep
      cases heq
      exact h
    | some conn =>
      obtain ⟨-, heq⟩ := Option.ite_none_right_eq_some.mp hstep
      cases heq
      exact update _ _ (hopens _ rfl)
  | transfer | datagram | poll =>
    obtain ⟨-, heq⟩ := Option.ite_none_right_eq_some.mp hstep
    cases heq
    exact h
  | configure k' =>
    obtain ⟨-, heq⟩ := Option.ite_none_left_eq_some.mp hstep
    cases heq
    exact h
  | close k' =>
    obtain ⟨hopen, heq⟩ := Option.ite_none_left_eq_some.mp hstep
    cases heq
    refine update _ _ ?_
    rintro rfl
    exact hopen h

end Table

/-- The runs of the protocol. -/
abbrev Conforms : Table K → List (Op K) → Table K → Prop := Run (Fires Table.step)

end SimpleTests.SocketProtocol
