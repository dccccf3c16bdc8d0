import SimpleTests.TransitionRuns

/-! # Programs that make calls

A program is a tree (`Prog`): it ends with a result, it stops early, or it makes a call and
goes on with the reply, whatever that is.  So all the runs of a program are in its tree, and
`Prog.Runs` reads them off, with those that have not ended yet.

`Contract` says what a program owes to its environment (`requires`) and what the environment
owes to it (`assumes`), in a state that follows the calls.  `Prog.wp` is the weakest
precondition of a program under a contract; it is computed along the program by the simp
lemmas.  `Prog.Runs.keeps` says what it is worth: in every run the program keeps the
contract, and it ends as the postcondition has it.
-/
namespace SimpleTests.CallPrograms
open Transition

/-- The calls of a program, each with the type of its replies. -/
structure Interface where
  Call : Type
  Reply : Call → Type

/-- A program that ends with an `α`, or early with an `ε`. -/
inductive Prog (I : Interface) (ε α : Type)
  | done (a : α)
  | stop (e : ε)
  | call (c : I.Call) (k : I.Reply c → Prog I ε α)

variable {I : Interface} {ε α β σ : Type}

namespace Prog

def bind : Prog I ε α → (α → Prog I ε β) → Prog I ε β
  | done a, f => f a
  | stop e, _ => stop e
  | call c k, f => call c fun r => (k r).bind f

instance : Monad (Prog I ε) where
  pure := done
  bind := bind

/-- Makes one call. -/
def ask (c : I.Call) : Prog I ε (I.Reply c) := call c done

end Prog

/-- A call with its reply. -/
abbrev Entry (I : Interface) : Type := (c : I.Call) × I.Reply c

/-- How a run ends; `waiting` if it has not. -/
inductive Ending (ε α : Type)
  | done (a : α)
  | stop (e : ε)
  | waiting

/-- The end is as `Q` says, or early as `E` says. -/
def Ending.Meets (Q : α → Prop) (E : ε → Prop) : Ending ε α → Prop
  | done a => Q a
  | stop e => E e
  | waiting => True

/-- The runs of a program. -/
inductive Prog.Runs : Prog I ε α → List (Entry I) → Ending ε α → Prop
  | done (a : α) : Runs (done a) [] (.done a)
  | stop (e : ε) : Runs (stop e) [] (.stop e)
  | waiting (p : Prog I ε α) : Runs p [] .waiting
  | call {c : I.Call} {k : I.Reply c → Prog I ε α} {r : I.Reply c} {log : List (Entry I)}
      {e : Ending ε α} : Runs (k r) log e → Runs (call c k) (⟨c, r⟩ :: log) e

/-- The run of a program in an environment that has one reply for each call. -/
def Prog.under (env : (c : I.Call) → I.Reply c) : Prog I ε α → List (Entry I) × Ending ε α
  | done a => ([], .done a)
  | stop e => ([], .stop e)
  | call c k => (⟨c, env c⟩ :: ((k (env c)).under env).1, ((k (env c)).under env).2)

theorem Prog.runs_under (env : (c : I.Call) → I.Reply c) (p : Prog I ε α) :
    p.Runs (p.under env).1 (p.under env).2 := by
  induction p with
  | done a => exact .done a
  | stop e => exact .stop e
  | call c k ih => exact .call (ih (env c))

/-- What a program and its environment owe each other. -/
structure Contract (I : Interface) (σ : Type) where
  requires : σ → I.Call → Prop
  assumes : σ → (c : I.Call) → I.Reply c → Prop
  next : σ → (c : I.Call) → I.Reply c → σ

namespace Contract
variable (C : Contract I σ)

/-- The steps of an environment that keeps its part. -/
def Granted (s : σ) (x : Entry I) (s' : σ) : Prop := C.assumes s x.1 x.2 ∧ s' = C.next s x.1 x.2

/-- The steps of a program that keeps its part. -/
def Kept (s : σ) (x : Entry I) (s' : σ) : Prop := C.requires s x.1 ∧ s' = C.next s x.1 x.2

/-- The state behind a log. -/
def after (s : σ) (log : List (Entry I)) : σ := log.foldl (fun s x => C.next s x.1 x.2) s

/-- The environment has kept its part all along a log. -/
def Grants : σ → List (Entry I) → Prop
  | _, [] => True
  | s, x :: log => C.assumes s x.1 x.2 ∧ Grants (C.next s x.1 x.2) log

variable {C}

theorem run_granted {s : σ} {log : List (Entry I)} (h : C.Grants s log) :
    Run C.Granted s log (C.after s log) := by
  induction log generalizing s with
  | nil => exact .nil s
  | cons x log ih =>
    obtain ⟨hassumes, hrest⟩ := h
    exact .cons ⟨hassumes, rfl⟩ (ih hrest)

/-- An environment that owes nothing always keeps its part. -/
theorem run_granted_of_forall (h : ∀ s c r, C.assumes s c r) (s : σ) (log : List (Entry I)) :
    Run C.Granted s log (C.after s log) := by
  induction log generalizing s with
  | nil => exact .nil s
  | cons x log ih => exact .cons ⟨h s x.1 x.2, rfl⟩ (ih _)

theorem eq_after_of_kept {s s' : σ} {log : List (Entry I)} (h : Run C.Kept s log s') :
    s' = C.after s log := by
  induction h with
  | nil s => rfl
  | cons hx _ ih =>
    rw [ih, hx.2]
    rfl

end Contract

namespace Prog
variable (C : Contract I σ) {Q Q' : α → σ → Prop} {E E' : ε → σ → Prop} {s s' : σ}

/-- The weakest precondition of a program that ends as `Q` says, or early as `E` says. -/
def wp (C : Contract I σ) (Q : α → σ → Prop) (E : ε → σ → Prop) : Prog I ε α → σ → Prop
  | done a, s => Q a s
  | stop e, s => E e s
  | call c k, s => C.requires s c ∧ ∀ r, C.assumes s c r → wp C Q E (k r) (C.next s c r)

@[simp] theorem wp_pure (a : α) : wp C Q E (pure a : Prog I ε α) s ↔ Q a s := Iff.rfl

@[simp] theorem wp_stop (e : ε) : wp C Q E (stop e : Prog I ε α) s ↔ E e s := Iff.rfl

@[simp] theorem wp_ask {c : I.Call} {Q : I.Reply c → σ → Prop} :
    wp C Q E (ask c : Prog I ε (I.Reply c)) s ↔
      C.requires s c ∧ ∀ r, C.assumes s c r → Q r (C.next s c r) := Iff.rfl

@[simp] theorem wp_bind {p : Prog I ε α} {f : α → Prog I ε β} {Q : β → σ → Prop} :
    wp C Q E (p >>= f) s ↔ wp C (fun a => wp C Q E (f a)) E p s := by
  show wp C Q E (p.bind f) s ↔ _
  induction p generalizing s with
  | done a => exact Iff.rfl
  | stop e => exact Iff.rfl
  | call c k ih => exact and_congr_right fun _ => forall_congr' fun r => imp_congr_right fun _ => ih r

/-- The rule of consequence. -/
theorem wp_mono {p : Prog I ε α} (h : wp C Q E p s) (hQ : ∀ a s, Q a s → Q' a s)
    (hE : ∀ e s, E e s → E' e s) : wp C Q' E' p s := by
  induction p generalizing s with
  | done a => exact hQ a s h
  | stop e => exact hE e s h
  | call c k ih =>
    obtain ⟨hreq, hnext⟩ := h
    exact ⟨hreq, fun r hr => ih r (hnext r hr)⟩

/-- The rule of a loop over a list; `inv` is about the members that have been visited. -/
theorem wp_forM {γ : Type} {xs : List γ} {f : γ → Prog I ε Unit} (inv : List γ → σ → Prop)
    (hstep : ∀ before x after s, xs = before ++ x :: after → inv before s →
      wp C (fun _ => inv (before ++ [x])) E (f x) s)
    (hinit : inv [] s) : wp C (fun _ => inv xs) E (forM xs f) s := by
  have rest : ∀ before after s, xs = before ++ after → inv before s →
      wp C (fun _ => inv xs) E (forM after f) s := by
    intro before after
    induction after generalizing before with
    | nil =>
      rintro s rfl hinv
      rw [List.append_nil]
      exact hinv
    | cons x after ih =>
      intro s heq hinv
      rw [List.forM_cons]
      refine (wp_bind C).mpr (wp_mono C (hstep before x after s heq hinv) (fun _ s hs => ?_)
        fun _ _ h => h)
      exact ih (before ++ [x]) s (by rw [heq, List.append_assoc, List.singleton_append]) hs
  exact rest [] xs s rfl hinit

variable {C}

/-- **What a weakest precondition is worth**: in every run in which the environment keeps its
part of the contract, also in one that has not ended, the program keeps its own; and where
the run has ended, the postcondition holds. -/
theorem Runs.keeps {p : Prog I ε α} {log : List (Entry I)} {e : Ending ε α} (h : p.Runs log e)
    (hp : p.wp C Q E s) (hlog : Run C.Granted s log s') :
    Run C.Kept s log s' ∧ e.Meets (Q · s') (E · s') := by
  induction h generalizing s with
  | done a =>
    cases hlog
    exact ⟨.nil _, hp⟩
  | stop x =>
    cases hlog
    exact ⟨.nil _, hp⟩
  | waiting p =>
    cases hlog
    exact ⟨.nil _, trivial⟩
  | call _ ih =>
    cases hlog with
    | cons hs hrest =>
      obtain ⟨hreq, hnext⟩ := hp
      obtain ⟨hassumes, rfl⟩ := hs
      obtain ⟨hkept, hend⟩ := ih (hnext _ hassumes) hrest
      exact ⟨.cons ⟨hreq, rfl⟩ hkept, hend⟩

end Prog

/-! ## What has happened before a call -/

/-- The contract under which a call has to find that something has happened before it. -/
def history (before : List (Entry I) → I.Call → Prop) : Contract I (List (Entry I)) where
  requires := before
  assumes _ _ _ := True
  next log c r := log ++ [⟨c, r⟩]

theorem after_history (before : List (Entry I) → I.Call → Prop) (log log' : List (Entry I)) :
    (history before).after log log' = log ++ log' := by
  induction log' generalizing log with
  | nil => rw [List.append_nil]; rfl
  | cons x log' ih =>
    show (history before).after (log ++ [x]) log' = _
    rw [ih, List.append_assoc]
    rfl

/-- **Before each call of a run** there has been what the program was proved to find. -/
theorem Prog.Runs.before {before : List (Entry I) → I.Call → Prop} {p : Prog I ε α}
    {log : List (Entry I)} {e : Ending ε α} (h : p.Runs log e)
    (hp : p.wp (history before) (fun _ _ => True) (fun _ _ => True) [])
    {earlier later : List (Entry I)} {x : Entry I} (hlog : log = earlier ++ x :: later) :
    before earlier x.1 := by
  obtain ⟨hkept, -⟩ := h.keeps hp (Contract.run_granted_of_forall (fun _ _ _ => trivial) [] log)
  rw [hlog] at hkept
  obtain ⟨m, hearlier, hlater⟩ := hkept.exists_of_append
  have hm : m = earlier := by
    rw [Contract.eq_after_of_kept hearlier, after_history, List.nil_append]
  cases hlater with
  | cons hx _ => exact hm ▸ hx.1

end SimpleTests.CallPrograms
