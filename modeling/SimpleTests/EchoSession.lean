import SimpleTests.RunTranslation
import Mathlib.Data.List.Basic

/-! # The session of one client of an echo service

The client connects, then its data is echoed chunk by chunk, and at last the service hangs
up.  Of a chunk the first `n` members are echoed, where `n` is not up to the service.

`Session.step` is the service to one client, and a service to many is `interleave` of it.
What a session has been through is its `Story`, and every run of the service to one client
is one (`story_of_run`).
-/
namespace SimpleTests.EchoSession
open Transition

variable {α : Type*}

inductive Phase
  | fresh
  | connected
  | closed
  deriving DecidableEq

/-- How far a session is, what has come in, and what has gone out. -/
@[ext] structure Session (α : Type*) where
  phase : Phase
  inbox : List α
  outbox : List α

inductive Act (α : Type*)
  | connect
  /-- A chunk comes in, and its first `n` members go out. -/
  | echo (chunk : List α) (n : ℕ)
  | hangup

namespace Session

/-- Before the client connects. -/
def fresh : Session α := ⟨.fresh, [], []⟩

def step (s : Session α) : Act α → Option (Session α)
  | .connect => if s.phase = .fresh then some { s with phase := .connected } else none
  | .echo chunk n =>
    if s.phase = .connected ∧ n ≤ chunk.length then
      some { s with inbox := s.inbox ++ chunk, outbox := s.outbox ++ chunk.take n }
    else none
  | .hangup => if s.phase = .connected then some { s with phase := .closed } else none

end Session

/-- A chunk and how many of its members are echoed. -/
structure Echo (α : Type*) where
  chunk : List α
  taken : ℕ
  taken_le : taken ≤ chunk.length

namespace Echo

def act (e : Echo α) : Act α := .echo e.chunk e.taken

/-- What comes in with some echoes. -/
def received (es : List (Echo α)) : List α := (es.map Echo.chunk).flatten

/-- What goes out with them. -/
def returned (es : List (Echo α)) : List α := (es.map fun e => e.chunk.take e.taken).flatten

end Echo

/-- **The stories of sessions**: the events that a session goes through, in order, and the
session that they leave. -/
inductive Story : List (Act α) → Session α → Prop
  | fresh : Story [] .fresh
  | connected (es : List (Echo α)) :
      Story (.connect :: es.map Echo.act) ⟨.connected, Echo.received es, Echo.returned es⟩
  | closed (es : List (Echo α)) :
      Story (.connect :: es.map Echo.act ++ [.hangup])
        ⟨.closed, Echo.received es, Echo.returned es⟩

variable {acts : List (Act α)} {s s' : Session α} {a : Act α}

/-- A story goes on by one event. -/
theorem Story.snoc (h : Story acts s) (hs : s.step a = some s') : Story (acts ++ [a]) s' := by
  cases h with
  | fresh =>
    cases a with
    | connect =>
      cases hs
      exact .connected []
    | echo | hangup => cases hs
  | connected es =>
    cases a with
    | connect => cases hs
    | echo chunk n =>
      obtain ⟨⟨-, hle⟩, hs⟩ := Option.ite_none_right_eq_some.mp hs
      have hstory := Story.connected (es ++ [⟨chunk, n, hle⟩])
      cases hs
      simpa [Echo.received, Echo.returned, Echo.act] using hstory
    | hangup =>
      cases hs
      exact .closed es
  | closed es =>
    cases a with
    | connect | hangup => cases hs
    | echo chunk n => simp [Session.step] at hs

/-- **Every run of the service to one client is a story.** -/
theorem story_of_run {acts' : List (Act α)} (h : Run (Fires Session.step) s acts' s')
    (hs : Story acts s) : Story (acts ++ acts') s' := by
  induction h generalizing acts with
  | nil s =>
    rw [List.append_nil]
    exact hs
  | @cons s m s' a acts' hstep _ ih =>
    rw [← List.singleton_append, ← List.append_assoc]
    exact ih (hs.snoc hstep)

end SimpleTests.EchoSession
