import Brix.Foundation.LockProgram
import Mathlib.Algebra.Ring.Nat

/-!
# Progress

Code without loops takes a bounded number of instructions, however others change the memory under
it.  A thread then takes no more steps than its calls allow, and if it is not deadlock that stops
the threads, all calls have been made and have returned.

* `Prog.Within` — code that returns within so many instructions
* `count_le_of_runs` — the steps of one thread in a run
* `finished_of_stuck` — when nobody can move any more

### What is load-bearing

`Within` quantifies over the memory at every access, so a bound on code is a bound whatever others
do.  The bound on a thread is then a matter of counting: what it has left to do goes down by at
least one with each of its steps, and is not changed by the steps of others (`count_le_of_runs`).
-/

namespace LockProgram

open Execution

universe u

variable {Mem Mutex Result Call Tid : Type u}

/-- Code that returns within `n` instructions, whatever it finds in the memory. -/
def Prog.Within : Prog Mem Mutex Result → ℕ → Prop
  | .ret _, n => 0 < n
  | .lock _ next, n => 0 < n ∧ next.Within (n - 1)
  | .unlock _ next, n => 0 < n ∧ next.Within (n - 1)
  | .access _ next, n => 0 < n ∧ ∀ mem, (next mem).Within (n - 1)

section Within

variable {prog next : Prog Mem Mutex Result} {mutex : Mutex} {n m : ℕ}

/-- A larger bound is a bound. -/
theorem Prog.Within.mono (h : prog.Within n) (hle : n ≤ m) : prog.Within m := by
  induction prog generalizing n m with
  | ret result => exact Nat.lt_of_lt_of_le h hle
  | lock mutex next ih =>
      exact ⟨Nat.lt_of_lt_of_le h.1 hle, ih h.2 (Nat.sub_le_sub_right hle 1)⟩
  | unlock mutex next ih =>
      exact ⟨Nat.lt_of_lt_of_le h.1 hle, ih h.2 (Nat.sub_le_sub_right hle 1)⟩
  | access update next ih =>
      exact ⟨Nat.lt_of_lt_of_le h.1 hle, fun mem => ih mem (h.2 mem) (Nat.sub_le_sub_right hle 1)⟩

/-- There is at least the return. -/
theorem Prog.Within.pos (h : prog.Within n) : 0 < n := by
  cases prog with
  | ret result => exact h
  | lock mutex next => exact h.1
  | unlock mutex next => exact h.1
  | access update next => exact h.1

/-- To return is one instruction. -/
theorem within_ret (result : Result) : (Prog.ret result : Prog Mem Mutex Result).Within (n + 1) :=
  Nat.succ_pos n

/-- A mutex is one more. -/
theorem within_lock (h : next.Within n) : (Prog.lock mutex next).Within (n + 1) :=
  ⟨Nat.succ_pos n, h⟩

/-- To give it back is one more. -/
theorem within_unlock (h : next.Within n) : (Prog.unlock mutex next).Within (n + 1) :=
  ⟨Nat.succ_pos n, h⟩

/-- An access is one more, whatever it finds. -/
theorem within_access {update : Mem → Mem} {next : Mem → Prog Mem Mutex Result}
    (h : ∀ mem, (next mem).Within n) : (Prog.access update next).Within (n + 1) :=
  ⟨Nat.succ_pos n, h⟩

end Within

/-! ## The steps of a thread -/

/-- A thread that is through with its calls after `n` more steps at most. -/
def Thread.Through (limit : Call → ℕ) (th : Thread Mem Mutex Result Call) (n : ℕ) : Prop :=
  ∃ m, th.active.elim True (fun running => running.2.Within m) ∧
    m + (th.pending.map limit).sum ≤ n

/-- The calls of a thread, in order: those that have returned, the one that it is in, and those to
come. -/
def Thread.calls (th : Thread Mem Mutex Result Call) : List Call :=
  th.finished.map Prod.fst ++ ((th.active.map Prod.fst).toList ++ th.pending)

variable [DecidableEq Mutex] [DecidableEq Tid] {body : Call → Prog Mem Mutex Result}
  {limit : Call → ℕ} {c c' : Config Mem Mutex Result Call Tid} {t : Tid}

/-- A step counts, and beginning a call is one. -/
theorem Thread.Through.step {n : ℕ} (h : (c.thread t).Through limit n)
    (hbody : ∀ call, (body call).Within (limit call - 1))
    (taken : LockProgram.step body c t = some c') :
    ∃ m, n = m + 1 ∧ (c'.thread t).Through limit m := by
  obtain ⟨m, hthrough, hle⟩ := h
  rcases step_cases taken with ⟨call, rest, hactive, hpending, rfl⟩ | ⟨call, result, hactive, rfl⟩ |
    ⟨call, mutex, next, hactive, hfree, rfl⟩ | ⟨call, mutex, next, hactive, rfl⟩ |
    ⟨call, update, next, hactive, rfl⟩
  · have hpos := (hbody call).pos
    rw [hpending, List.map_cons, List.sum_cons] at hle
    refine ⟨n - 1, by omega, ?_⟩
    rw [Config.setThread_self]
    exact ⟨limit call - 1, hbody call, by show _ + (rest.map limit).sum ≤ _; omega⟩
  · rw [hactive] at hthrough
    have hpos := Prog.Within.pos hthrough
    refine ⟨n - 1, by omega, ?_⟩
    rw [Config.setThread_self]
    exact ⟨0, trivial, by show _ + ((c.thread t).pending.map limit).sum ≤ _; omega⟩
  · rw [hactive] at hthrough
    obtain ⟨hpos, hnext⟩ := hthrough
    refine ⟨n - 1, by omega, ?_⟩
    rw [Config.setThread_self]
    exact ⟨m - 1, hnext, by show _ + ((c.thread t).pending.map limit).sum ≤ _; omega⟩
  · rw [hactive] at hthrough
    obtain ⟨hpos, hnext⟩ := hthrough
    refine ⟨n - 1, by omega, ?_⟩
    rw [Config.setThread_self]
    exact ⟨m - 1, hnext, by show _ + ((c.thread t).pending.map limit).sum ≤ _; omega⟩
  · rw [hactive] at hthrough
    obtain ⟨hpos, hnext⟩ := hthrough
    refine ⟨n - 1, by omega, ?_⟩
    rw [Config.setThread_self]
    exact ⟨m - 1, hnext c.mem, by show _ + ((c.thread t).pending.map limit).sum ≤ _; omega⟩

/-- **No thread spins.**  In a run a thread takes at most as many steps as its calls allow. -/
theorem count_le_of_runs (hbody : ∀ call, (body call).Within (limit call - 1)) {mem : Mem}
    {calls : Tid → List Call} {ok : Config Mem Mutex Result Call Tid → Tid → Prop}
    {schedule : List Tid}
    (run : Runs (LockProgram.step body) ok (Config.start mem calls) schedule c) (t : Tid) :
    schedule.count t ≤ ((calls t).map limit).sum := by
  have hthrough : ∃ n, (c.thread t).Through limit n ∧
      schedule.count t + n = ((calls t).map limit).sum := by
    induction run with
    | nil => exact ⟨_, ⟨0, trivial, Nat.le_of_eq (Nat.zero_add _)⟩, Nat.zero_add _⟩
    | @snoc schedule c c' u run _ taken ih =>
        obtain ⟨n, h, hcount⟩ := ih
        rw [List.count_append, List.count_singleton]
        by_cases hut : u = t
        · subst hut
          obtain ⟨m, rfl, hnext⟩ := h.step hbody taken
          refine ⟨m, hnext, ?_⟩
          rw [if_pos (beq_self_eq_true u)]
          omega
        · refine ⟨n, ?_, ?_⟩
          · rw [thread_of_ne_step taken (Ne.symm hut)]
            exact h
          · rw [if_neg (by simpa using hut)]
            exact hcount
  obtain ⟨n, -, hcount⟩ := hthrough
  omega

/-! ## The calls of a thread -/

/-- A step makes, takes up or ends a call; the calls of a thread are the same all along. -/
theorem Thread.calls_step (taken : LockProgram.step body c t = some c') :
    (c'.thread t).calls = (c.thread t).calls := by
  rcases step_cases taken with ⟨call, rest, hactive, hpending, rfl⟩ | ⟨call, result, hactive, rfl⟩ |
    ⟨call, mutex, next, hactive, hfree, rfl⟩ | ⟨call, mutex, next, hactive, rfl⟩ |
    ⟨call, update, next, hactive, rfl⟩
  · rw [Config.setThread_self, Thread.calls, Thread.calls, hactive, hpending]
    rfl
  · rw [Config.setThread_self, Thread.calls, Thread.calls, hactive]
    simp [Thread.done]
  · rw [Config.setThread_self, Thread.calls, Thread.calls, hactive]
    rfl
  · rw [Config.setThread_self, Thread.calls, Thread.calls, hactive]
    rfl
  · rw [Config.setThread_self, Thread.calls, Thread.calls, hactive]
    rfl

/-- No call gets lost. -/
theorem calls_of_runs {mem : Mem} {calls : Tid → List Call}
    {ok : Config Mem Mutex Result Call Tid → Tid → Prop} {schedule : List Tid}
    (run : Runs (LockProgram.step body) ok (Config.start mem calls) schedule c) (t : Tid) :
    (c.thread t).calls = calls t := by
  induction run with
  | nil => rfl
  | @snoc schedule c c' u run _ taken ih =>
      by_cases hut : u = t
      · subst hut
        exact (Thread.calls_step taken).trans ih
      · rw [thread_of_ne_step taken (Ne.symm hut)]
        exact ih

/-- **The end of a run.**  If nobody can move and it is no deadlock, all calls have returned. -/
theorem finished_of_stuck {mem : Mem} {calls : Tid → List Call}
    {ok : Config Mem Mutex Result Call Tid → Tid → Prop} {schedule : List Tid}
    (run : Runs (LockProgram.step body) ok (Config.start mem calls) schedule c)
    (hlive : ¬ Deadlocked body c) (hstuck : ∀ t, LockProgram.step body c t = none) (t : Tid) :
    (c.thread t).finished.map Prod.fst = calls t := by
  have hdone : ¬ Unfinished c t := fun hun => hlive ⟨⟨t, hun⟩, hstuck⟩
  obtain ⟨hactive, hpending⟩ := not_or.mp hdone
  rw [← calls_of_runs run t, Thread.calls, Option.not_isSome_iff_eq_none.mp hactive,
    not_not.mp hpending]
  exact (List.append_nil _).symm

end LockProgram
