import Brix.Foundation.LockProgram
import Mathlib.Data.Set.Lattice
import Mathlib.Order.CompletePartialOrder

/-!
# Assertions about threads

A proof outline for code under mutexes: an assertion about each call, the code that it has
yet to run, the mutexes that it holds and the memory.  The assertion holds when a call
begins, each instruction of the call takes it to the next one, and an access does not get in
the way of the assertion of a thread that holds other mutexes (`Outline`).  Then it holds of
every thread throughout a run (`Asserts.step`).

An outline need not say that mutexes are given back.  That the threads do so is a condition
on the configuration (`Config.Tidy`), known from somewhere else.

### The design

An assertion is attached to code, not to a program point: there are no labels, and the code that
is left says where a call is.  That a thread's assertion is not disturbed by the accesses of
others is one obligation of the outline, for accesses under disjoint sets of mutexes, instead of
one for each pair of program points.
-/

namespace LockProgram

universe u

variable {Mem Mutex Result Call Tid : Type u}

/-- Threads hold nothing before and after a call, and give back what they hold. -/
structure Config.Tidy (c : Config Mem Mutex Result Call Tid) : Prop where
  idle : ∀ t, (c.thread t).active = none → c.holds t = ∅
  returned : ∀ t call result, (c.thread t).active = some (call, .ret result) → c.holds t = ∅
  mine : ∀ t call mutex next, (c.thread t).active = some (call, .unlock mutex next) →
    mutex ∈ c.holds t

/-- No mutex has two holders. -/
theorem Config.disjoint_holds (c : Config Mem Mutex Result Call Tid) {t u : Tid} (hut : u ≠ t) :
    Disjoint (c.holds u) (c.holds t) := by
  rw [Set.disjoint_left]
  intro mutex hyours hmine
  exact hut (Option.some.inj (hyours.symm.trans hmine))

/-- An assertion that the code of every call keeps up, as long as its instructions are
admitted. -/
structure Outline (body : Call → Prog Mem Mutex Result)
    (admits : Call → Prog Mem Mutex Result → Set Mutex → Mem → Prop)
    (J : Call → Prog Mem Mutex Result → Set Mutex → Mem → Prop) : Prop where
  begin : ∀ call mem, J call (body call) ∅ mem
  lock : ∀ {call mutex next held mem}, J call (.lock mutex next) held mem →
    admits call (.lock mutex next) held mem → J call next (insert mutex held) mem
  unlock : ∀ {call mutex next held mem}, J call (.unlock mutex next) held mem →
    admits call (.unlock mutex next) held mem → J call next (held \ {mutex}) mem
  access : ∀ {call update next held mem}, J call (.access update next) held mem →
    admits call (.access update next) held mem → J call (next mem) held (update mem)
  others : ∀ {call update next held mem call' prog' held'}, J call (.access update next) held mem →
    admits call (.access update next) held mem → Disjoint held' held →
      J call' prog' held' mem → J call' prog' held' (update mem)

/-- The assertion holds of every thread in a call. -/
def Asserts (J : Call → Prog Mem Mutex Result → Set Mutex → Mem → Prop)
    (c : Config Mem Mutex Result Call Tid) : Prop :=
  ∀ t call prog, (c.thread t).active = some (call, prog) → J call prog (c.holds t) c.mem

/-- Nobody is in a call. -/
theorem asserts_start (J : Call → Prog Mem Mutex Result → Set Mutex → Mem → Prop) (mem : Mem)
    (calls : Tid → List Call) :
    Asserts J (Config.start mem calls : Config Mem Mutex Result Call Tid) :=
  fun _ _ _ => nofun

variable [DecidableEq Tid] {c c' : Config Mem Mutex Result Call Tid}
  {J : Call → Prog Mem Mutex Result → Set Mutex → Mem → Prop} {t : Tid} {call : Call}
  {next : Prog Mem Mutex Result}

/-- A thread moves on in its call. -/
theorem Asserts.advance (h : Asserts J c) {th : Thread Mem Mutex Result Call}
    (hself : c'.thread t = th) (hactive : th.active = some (call, next))
    (hthreads : ∀ u, u ≠ t → c'.thread u = c.thread u)
    (hholds : ∀ u, u ≠ t → c'.holds u = c.holds u)
    (hmem : ∀ u call' prog', u ≠ t → J call' prog' (c.holds u) c.mem →
      J call' prog' (c.holds u) c'.mem)
    (hnext : J call next (c'.holds t) c'.mem) : Asserts J c' := by
  intro u call' prog' hu
  by_cases hut : u = t
  · rw [hut, hself, hactive] at hu
    cases hu
    rw [hut]
    exact hnext
  · rw [hthreads u hut] at hu
    rw [hholds u hut]
    exact hmem u call' prog' hut (h u call' prog' hu)

variable [DecidableEq Mutex] {body : Call → Prog Mem Mutex Result}
  {admits : Call → Prog Mem Mutex Result → Set Mutex → Mem → Prop}

/-- **One step.** -/
theorem Asserts.step (h : Asserts J c) (outline : Outline body admits J) (tidy : c.Tidy)
    (admitted : ∀ call prog, (c.thread t).active = some (call, prog) →
      admits call prog (c.holds t) c.mem)
    (taken : LockProgram.step body c t = some c') : Asserts J c' := by
  have hthreads : ∀ {c : Config Mem Mutex Result Call Tid} {th} u, u ≠ t →
      (c.setThread t th).thread u = c.thread u := fun u hut => Config.setThread_of_ne _ hut _
  rcases step_cases taken with ⟨call, rest, hactive, hpending, rfl⟩ | ⟨call, result, hactive, rfl⟩ |
    ⟨call, mutex, next, hactive, hfree, rfl⟩ | ⟨call, mutex, next, hactive, rfl⟩ |
    ⟨call, update, next, hactive, rfl⟩
  · refine h.advance (Config.setThread_self ..) rfl hthreads (fun _ _ => rfl)
      (fun _ _ _ _ hother => hother) ?_
    show J call (body call) (c.holds t) c.mem
    rw [tidy.idle t hactive]
    exact outline.begin call c.mem
  · intro u call' prog' hu
    by_cases hut : u = t
    · rw [hut, Config.setThread_self] at hu
      cases hu
    · rw [hthreads u hut] at hu
      exact h u call' prog' hu
  · refine h.advance (Config.setThread_self ..) rfl hthreads
      (fun u hut => Config.holds_lock_of_ne hfree hut) (fun _ _ _ _ hother => hother) ?_
    have hnext := outline.lock (h t call _ hactive) (admitted call _ hactive)
    rw [← Config.holds_lock] at hnext
    exact hnext
  · refine h.advance (Config.setThread_self ..) rfl hthreads
      (fun u hut => Config.holds_unlock_of_ne (tidy.mine t call mutex next hactive) hut)
      (fun _ _ _ _ hother => hother) ?_
    have hnext := outline.unlock (h t call _ hactive) (admitted call _ hactive)
    rw [← Config.holds_unlock] at hnext
    exact hnext
  · have hself := h t call _ hactive
    have hadmitted := admitted call _ hactive
    refine h.advance (Config.setThread_self ..) rfl hthreads (fun _ _ => rfl)
      (fun u call' prog' hut => outline.others hself hadmitted (c.disjoint_holds hut)) ?_
    exact outline.access hself hadmitted

end LockProgram
