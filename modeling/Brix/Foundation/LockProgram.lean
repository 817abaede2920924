import Brix.Foundation.Execution
import Mathlib.Data.Finset.Basic
import Mathlib.Order.WellFounded

/-!
# Programs over shared memory and mutexes

The code of a call is a tree `Prog`: take or release a non-recursive mutex, or
access the shared memory once, atomically, and continue on what was seen.  One
tree has two readings.

* `Prog.solo` runs the call by itself; `none` means that it blocks on a mutex it
  already holds.
* `step` interleaves any number of threads, each working through a queue of
  calls.  A thread at a `lock` whose mutex is taken cannot move.

`not_deadlocked_of_rank` is the rule for deadlock freedom: if mutexes are held by
unfinished threads only and every waiting thread outranks the thread it waits
for, somebody can move.

### The design

A program is a tree rather than a list of instructions, because what a call does next depends on
what it has found.  The continuation of an access is a function of the memory after it, and a
program can therefore be analysed by structural recursion, whatever the memory may be: the
predicates of the modules above (`Within`, `Settles`, `Careful`, `TwoPhase` and the others) are
all defined by such a recursion, and they are about code that has not been run yet.

A mutex knows its owner, and only the owner can give it back.  The code of a call may violate
this; then the thread is stuck, and `not_deadlocked_of_rank` would not apply to it.

### What is load-bearing

The rank in `not_deadlocked_of_rank` is a function of the configuration and not of the mutexes.
An order on the mutexes would be too coarse where the same mutex is taken at two different places
of a call, once in the right order and once against it, and what distinguishes the two is what
else the thread has in hand.
-/

namespace LockProgram

universe u

variable {Mem Mutex Result Call Tid : Type u}

/-- The code of a call. -/
inductive Prog (Mem Mutex Result : Type u) : Type u
  | ret (result : Result)
  | lock (mutex : Mutex) (next : Prog Mem Mutex Result)
  | unlock (mutex : Mutex) (next : Prog Mem Mutex Result)
  | access (update : Mem → Mem) (next : Mem → Prog Mem Mutex Result)

/-- Run a call with nobody else around: the result, the memory it leaves, and the
mutexes it still holds. -/
def Prog.solo [DecidableEq Mutex] :
    Prog Mem Mutex Result → Mem → Finset Mutex → Option (Result × Mem × Finset Mutex)
  | .ret result, mem, held => some (result, mem, held)
  | .lock mutex next, mem, held =>
      if mutex ∈ held then none else next.solo mem (insert mutex held)
  | .unlock mutex next, mem, held => next.solo mem (held.erase mutex)
  | .access update next, mem, held => (next mem).solo (update mem) held

/-- A thread: the call it is in with the code still to run, the calls it has yet
to make, and the results so far. -/
structure Thread (Mem Mutex Result Call : Type u) where
  active : Option (Call × Prog Mem Mutex Result)
  pending : List Call
  finished : List (Call × Result)

/-- Threads over one memory. -/
structure Config (Mem Mutex Result Call Tid : Type u) where
  mem : Mem
  holder : Mutex → Option Tid
  thread : Tid → Thread Mem Mutex Result Call

/-- All mutexes free, every thread about to make its first call. -/
def Config.start (mem : Mem) (calls : Tid → List Call) :
    Config Mem Mutex Result Call Tid where
  mem := mem
  holder := fun _ => none
  thread := fun t => ⟨none, calls t, []⟩

/-- Continue the current call with `next`. -/
def Thread.at (th : Thread Mem Mutex Result Call) (call : Call)
    (next : Prog Mem Mutex Result) : Thread Mem Mutex Result Call :=
  { th with active := some (call, next) }

/-- Begin the call `call` and leave `rest` pending. -/
def Thread.begin (th : Thread Mem Mutex Result Call) (call : Call)
    (code : Prog Mem Mutex Result) (rest : List Call) :
    Thread Mem Mutex Result Call :=
  { th with active := some (call, code), pending := rest }

/-- End the call `call` with `result`. -/
def Thread.done (th : Thread Mem Mutex Result Call) (call : Call) (result : Result) :
    Thread Mem Mutex Result Call :=
  { th with active := none, finished := th.finished ++ [(call, result)] }

section Updates

variable (c : Config Mem Mutex Result Call Tid)

/-- One thread moves on. -/
def Config.setThread [DecidableEq Tid] (t : Tid) (th : Thread Mem Mutex Result Call) :
    Config Mem Mutex Result Call Tid :=
  { c with thread := Function.update c.thread t th }

/-- A mutex changes hands. -/
def Config.setHolder [DecidableEq Mutex] (mutex : Mutex) (owner : Option Tid) :
    Config Mem Mutex Result Call Tid :=
  { c with holder := Function.update c.holder mutex owner }

/-- The memory changes. -/
def Config.setMem (mem : Mem) : Config Mem Mutex Result Call Tid :=
  { c with mem := mem }

/-- The thread that has moved is where it has moved to. -/
@[simp] theorem Config.setThread_self [DecidableEq Tid] (t : Tid)
    (th : Thread Mem Mutex Result Call) : (c.setThread t th).thread t = th :=
  Function.update_self ..

/-- The others are where they were. -/
theorem Config.setThread_of_ne [DecidableEq Tid] {t u : Tid} (h : u ≠ t)
    (th : Thread Mem Mutex Result Call) : (c.setThread t th).thread u = c.thread u :=
  Function.update_of_ne h ..

end Updates

/-- The mutexes that a thread holds. -/
def Config.holds (c : Config Mem Mutex Result Call Tid) (t : Tid) : Set Mutex :=
  {mutex | c.holder mutex = some t}

section Holds

variable [DecidableEq Mutex]

/-- A thread that takes a mutex holds it from then on. -/
theorem Config.holds_lock (c : Config Mem Mutex Result Call Tid) (mutex : Mutex) (t : Tid) :
    (c.setHolder mutex (some t)).holds t = insert mutex (c.holds t) := by
  ext mutex'
  show Function.update c.holder mutex (some t) mutex' = some t ↔
    mutex' = mutex ∨ c.holder mutex' = some t
  by_cases hmutex : mutex' = mutex
  · rw [hmutex, Function.update_self]
    exact iff_of_true rfl (Or.inl rfl)
  · rw [Function.update_of_ne hmutex, or_iff_right hmutex]

/-- What one thread takes another one does not have. -/
theorem Config.holds_lock_of_ne {c : Config Mem Mutex Result Call Tid} {mutex : Mutex} {t u : Tid}
    (hfree : c.holder mutex = none) (hut : u ≠ t) :
    (c.setHolder mutex (some t)).holds u = c.holds u := by
  ext mutex'
  show Function.update c.holder mutex (some t) mutex' = some u ↔ c.holder mutex' = some u
  by_cases hmutex : mutex' = mutex
  · rw [hmutex, Function.update_self, hfree]
    exact iff_of_false (fun h => hut (Option.some.inj h).symm) nofun
  · rw [Function.update_of_ne hmutex]

/-- What is given back is not held any more. -/
theorem Config.holds_unlock (c : Config Mem Mutex Result Call Tid) (mutex : Mutex) (t : Tid) :
    (c.setHolder mutex none).holds t = c.holds t \ {mutex} := by
  ext mutex'
  show Function.update c.holder mutex none mutex' = some t ↔
    c.holder mutex' = some t ∧ mutex' ≠ mutex
  by_cases hmutex : mutex' = mutex
  · rw [hmutex, Function.update_self]
    exact iff_of_false nofun fun h => h.2 rfl
  · rw [Function.update_of_ne hmutex, and_iff_left hmutex]

/-- What one thread gives back the others did not hold. -/
theorem Config.holds_unlock_of_ne {c : Config Mem Mutex Result Call Tid} {mutex : Mutex}
    {t u : Tid} (hmine : mutex ∈ c.holds t) (hut : u ≠ t) :
    (c.setHolder mutex none).holds u = c.holds u := by
  rw [Config.holds_unlock, Set.sdiff_singleton_eq_self]
  exact fun hyours => hut (Option.some.inj (Eq.trans (Eq.symm hyours) hmine))

end Holds

variable [DecidableEq Mutex] [DecidableEq Tid]

/-- The thread's next move, if it has one and is not blocked. -/
def step (body : Call → Prog Mem Mutex Result)
    (c : Config Mem Mutex Result Call Tid) (t : Tid) :
    Option (Config Mem Mutex Result Call Tid) :=
  let th := c.thread t
  match th.active with
  | none =>
      match th.pending with
      | [] => none
      | call :: rest => some (c.setThread t (th.begin call (body call) rest))
  | some (call, .ret result) => some (c.setThread t (th.done call result))
  | some (call, .lock mutex next) =>
      if c.holder mutex = none then
        some ((c.setHolder mutex (some t)).setThread t (th.at call next))
      else none
  | some (call, .unlock mutex next) =>
      some ((c.setHolder mutex none).setThread t (th.at call next))
  | some (call, .access update next) =>
      some ((c.setMem (update c.mem)).setThread t (th.at call (next c.mem)))

/-- The thread has something left to do. -/
def Unfinished (c : Config Mem Mutex Result Call Tid) (t : Tid) : Prop :=
  (c.thread t).active.isSome ∨ (c.thread t).pending ≠ []

/-- Somebody has work left and nobody can move. -/
def Deadlocked (body : Call → Prog Mem Mutex Result)
    (c : Config Mem Mutex Result Call Tid) : Prop :=
  (∃ t, Unfinished c t) ∧ ∀ t, step body c t = none

/-- Thread `t` is at a `lock` whose mutex `u` holds. -/
def WaitsFor (c : Config Mem Mutex Result Call Tid) (t u : Tid) : Prop :=
  ∃ call mutex next, (c.thread t).active = some (call, .lock mutex next) ∧
    c.holder mutex = some u

section Rules

variable {body : Call → Prog Mem Mutex Result}
  {c c' : Config Mem Mutex Result Call Tid} {t : Tid}

/-- Everything a step can be. -/
theorem step_cases (h : step body c t = some c') :
    (∃ call rest, (c.thread t).active = none ∧ (c.thread t).pending = call :: rest ∧
      c' = c.setThread t ((c.thread t).begin call (body call) rest)) ∨
    (∃ call result, (c.thread t).active = some (call, .ret result) ∧
      c' = c.setThread t ((c.thread t).done call result)) ∨
    (∃ call mutex next, (c.thread t).active = some (call, .lock mutex next) ∧
      c.holder mutex = none ∧
      c' = (c.setHolder mutex (some t)).setThread t ((c.thread t).at call next)) ∨
    (∃ call mutex next, (c.thread t).active = some (call, .unlock mutex next) ∧
      c' = (c.setHolder mutex none).setThread t ((c.thread t).at call next)) ∨
    (∃ call update next, (c.thread t).active = some (call, .access update next) ∧
      c' = (c.setMem (update c.mem)).setThread t ((c.thread t).at call (next c.mem))) := by
  unfold step at h
  cases hactive : (c.thread t).active with
  | none =>
      cases hpending : (c.thread t).pending with
      | nil => simp [hactive, hpending] at h
      | cons call rest =>
          simp only [hactive, hpending, Option.some.injEq] at h
          exact Or.inl ⟨call, rest, rfl, rfl, h.symm⟩
  | some running =>
      obtain ⟨call, prog⟩ := running
      cases prog with
      | ret result =>
          simp only [hactive, Option.some.injEq] at h
          exact Or.inr (Or.inl ⟨call, result, rfl, h.symm⟩)
      | lock mutex next =>
          simp only [hactive, Option.ite_none_right_eq_some, Option.some.injEq] at h
          exact Or.inr (Or.inr (Or.inl ⟨call, mutex, next, rfl, h.1, h.2.symm⟩))
      | unlock mutex next =>
          simp only [hactive, Option.some.injEq] at h
          exact Or.inr (Or.inr (Or.inr (Or.inl ⟨call, mutex, next, rfl, h.symm⟩)))
      | access update next =>
          simp only [hactive, Option.some.injEq] at h
          exact Or.inr (Or.inr (Or.inr (Or.inr ⟨call, update, next, rfl, h.symm⟩)))

/-- Other threads stay where they are. -/
theorem thread_of_ne_step (h : step body c t = some c') {u : Tid} (hut : u ≠ t) :
    c'.thread u = c.thread u := by
  rcases step_cases h with ⟨_, _, _, _, rfl⟩ | ⟨_, _, _, rfl⟩ | ⟨_, _, _, _, _, rfl⟩ |
    ⟨_, _, _, _, rfl⟩ | ⟨_, _, _, _, rfl⟩ <;>
    exact Config.setThread_of_ne _ hut _

/-- The only reason an unfinished thread cannot move is a mutex somebody holds. -/
theorem waits_of_blocked (hun : Unfinished c t) (h : step body c t = none) :
    ∃ u, WaitsFor c t u := by
  unfold step at h
  cases hactive : (c.thread t).active with
  | none =>
      cases hpending : (c.thread t).pending with
      | nil => simp [Unfinished, hactive, hpending] at hun
      | cons call rest => simp [hactive, hpending] at h
  | some running =>
      obtain ⟨call, prog⟩ := running
      cases prog with
      | ret result => simp [hactive] at h
      | unlock mutex next => simp [hactive] at h
      | access update next => simp [hactive] at h
      | lock mutex next =>
          cases hholder : c.holder mutex with
          | none => simp [hactive, hholder] at h
          | some u => exact ⟨u, call, mutex, next, hactive, hholder⟩

/-- **Deadlock freedom by rank.**  Follow the waits-for relation from an unfinished
thread: the rank drops at every hop and the thread at the other end is
unfinished, so it ends at a thread that can move. -/
theorem not_deadlocked_of_rank (rank : Tid → ℕ)
    (live : ∀ mutex u, c.holder mutex = some u → Unfinished c u)
    (drop : ∀ t u, WaitsFor c t u → rank u < rank t) : ¬ Deadlocked body c := by
  rintro ⟨⟨t, hun⟩, stuck⟩
  have hall : ∀ n t, rank t = n → Unfinished c t → False := by
    intro n
    induction n using Nat.strong_induction_on with
    | _ n ih =>
        intro t hrank hun
        obtain ⟨u, hwaits⟩ := waits_of_blocked hun (stuck t)
        obtain ⟨call, mutex, next, hactive, hholder⟩ := hwaits
        exact ih (rank u) (hrank ▸ drop t u ⟨call, mutex, next, hactive, hholder⟩) u rfl
          (live mutex u hholder)
  exact hall (rank t) t rfl hun

end Rules

end LockProgram
