import Brix.Foundation.Accounts
import Mathlib.Data.List.Forall2

/-!
# One call at a time

What calls are for is said by what each of them does to an abstract state, all at once.  The code
takes many accesses over memory and mutexes instead, and other calls come in between.  Each call
has one access at which it *counts*: there the abstract state changes, and the verdict of the call
is settled.  A mutex that nobody holds shows what it protects of the abstract state; what a thread
changes, it shows again before it gives the mutex back.

* `Specification` — the abstract calls, what a mutex shows, and what code can rely on
* `Linear` — code that has yet to count, or has counted with some verdict
* `Explains` — a log of calls that accounts for everything that has been seen so far
* `exists_explains` — there always is one, and it only grows at its end

That the log grows at its end is what makes it respect time.  A call that is over is in the log; a
call that begins later is behind it.

### What is load-bearing

The access at which a call counts is chosen by the proof and not by the code.  `Linear` is a
predicate on the code that is left, and a proof of it says at one access of every path: here.
From there on the verdict is fixed, and what the code still does to the memory is only the showing
of what it has already done to the abstract state.  So the abstract state runs ahead of the
memory, and the two agree where nobody is at work: that is the clause about mutexes that are free.

`S.Frame` and `S.Agree` are the rely and the guarantee.  Code under some mutexes relies on what
they protect, in the memory and in the abstract state; what it changes of either lies under the
mutexes that it holds, and two threads hold different ones.  `Linear.congr` is the only use of
this: the code of a thread goes on to be linear while another one moves.
-/

namespace LockProgram

open Execution

universe u v w x

variable {Mem Mutex Result Call Tid : Type u} {M : Type v} {Abs : Type w} {Verdict : Type x}

/-- What the calls do to an abstract state.  A result may have a verdict or not, and a mutex that
is `unused` is in nobody's hands.  What code relies on is known from somewhere else. -/
structure Specification (B : Books Mem Mutex Call M) (Result : Type u) (Abs : Type w)
    (Verdict : Type x) where
  apply : Call → Abs → Verdict × Abs
  verdict : Call → Result → Option Verdict
  protects : Mutex → Setoid Abs
  shows : Mutex → Mem → Abs → Prop
  shows_congr : ∀ {mutex mem mem' abs abs'}, B.protects mutex mem mem' → protects mutex abs abs' →
    shows mutex mem abs → shows mutex mem' abs'
  unused : Mutex → Mem → Prop
  relies : Call → Prog Mem Mutex Result → Set Mutex → Mem → Prop

variable {B : Books Mem Mutex Call M} (S : Specification B Result Abs Verdict)

/-- What the mutexes in hand protect of the abstract state is the same. -/
def Specification.Agree (held : Set Mutex) (abs abs' : Abs) : Prop :=
  ∀ mutex ∈ held, S.protects mutex abs abs'

/-- What the other mutexes protect of it is the same. -/
def Specification.Frame (held : Set Mutex) (abs abs' : Abs) : Prop :=
  ∀ mutex ∉ held, S.protects mutex abs abs'

section Agree

variable {S} {held held' : Set Mutex} {abs abs' abs'' : Abs}

/-- A state agrees with itself. -/
theorem Specification.Agree.refl (held : Set Mutex) (abs : Abs) : S.Agree held abs abs :=
  fun mutex _ => (S.protects mutex).refl abs

/-- To agree is transitive. -/
theorem Specification.Agree.trans (h : S.Agree held abs abs') (h' : S.Agree held abs' abs'') :
    S.Agree held abs abs'' :=
  fun mutex hmem => (S.protects mutex).trans (h mutex hmem) (h' mutex hmem)

/-- Fewer mutexes have less to agree about. -/
theorem Specification.Agree.mono (h : S.Agree held abs abs') (hsub : held' ⊆ held) :
    S.Agree held' abs abs' :=
  fun mutex hmem => h mutex (hsub hmem)

/-- To change nothing stays within any frame. -/
theorem Specification.Frame.refl (held : Set Mutex) (abs : Abs) : S.Frame held abs abs :=
  fun mutex _ => (S.protects mutex).refl abs

/-- What stays within the frame of some mutexes is not noticed under others. -/
theorem Specification.Frame.agree (h : S.Frame held abs abs') (hdisjoint : Disjoint held' held) :
    S.Agree held' abs abs' :=
  fun mutex hmem => h mutex (Set.disjoint_left.mp hdisjoint hmem)

end Agree

/-- Code that counts once, now or later, or has counted: `counted` is the verdict then. -/
def Linear (call : Call) :
    Prog Mem Mutex Result → Set Mutex → Mem → Abs → Option Verdict → Prop
  | .ret result, _, _, _, counted =>
      ∃ verdict, counted = some verdict ∧ ∀ v, S.verdict call result = some v → v = verdict
  | .lock mutex next, held, mem, abs, counted => ∀ mem' abs', B.Agree held mem mem' →
      S.Agree held abs abs' → S.shows mutex mem' abs' →
        Linear call next (insert mutex held) mem' abs' counted
  | .unlock mutex next, held, mem, abs, counted =>
      mutex ∈ held ∧ S.shows mutex mem abs ∧ Linear call next (held \ {mutex}) mem abs counted
  | .access update next, held, mem, abs, counted => ∀ mem' abs', B.Agree held mem mem' →
      S.Agree held abs abs' → S.relies call (.access update next) held mem' →
      (∀ mutex, S.unused mutex mem' → S.shows mutex mem' abs') →
        Linear call (next mem') held (update mem') abs' counted ∨
        counted = none ∧ S.Frame held abs' (S.apply call abs').2 ∧
          Linear call (next mem') held (update mem') (S.apply call abs').2
            (some (S.apply call abs').1)

section Rules

variable {S} {held : Set Mutex} {mem mem' : Mem} {abs abs' : Abs} {call : Call}
  {prog : Prog Mem Mutex Result} {counted : Option Verdict}

/-- Others have moved, under other mutexes. -/
theorem Linear.congr (h : Linear S call prog held mem abs counted)
    (hagree : B.Agree held mem mem') (habs : S.Agree held abs abs') :
    Linear S call prog held mem' abs' counted := by
  induction prog generalizing held mem abs counted with
  | ret result => exact h
  | lock mutex next ih =>
      exact fun mem'' abs'' hagree' habs' => h mem'' abs'' (hagree.trans hagree') (habs.trans habs')
  | unlock mutex next ih =>
      obtain ⟨hmine, hshown, hnext⟩ := h
      exact ⟨hmine, S.shows_congr (hagree mutex hmine) (habs mutex hmine) hshown,
        ih hnext (hagree.mono Set.sdiff_subset) (habs.mono Set.sdiff_subset)⟩
  | access update next ih =>
      exact fun mem'' abs'' hagree' habs' => h mem'' abs'' (hagree.trans hagree') (habs.trans habs')

end Rules

/-! ## Logs -/

/-- The calls of a log, one at a time from `first`, have the verdicts that it says. -/
def Specification.Replays (first : Abs) : List (Tid × Call × Verdict) → Abs → Prop
  | [], last => last = first
  | (_, call, verdict) :: log, last =>
      (S.apply call first).1 = verdict ∧ Specification.Replays (S.apply call first).2 log last

/-- The log is continued by the call that counts now. -/
theorem Specification.Replays.snoc {S : Specification B Result Abs Verdict} {first last : Abs}
    {log : List (Tid × Call × Verdict)} (h : S.Replays first log last) (t : Tid) (call : Call) :
    S.Replays first (log ++ [(t, call, (S.apply call last).1)]) (S.apply call last).2 := by
  induction log generalizing first with
  | nil =>
      cases h
      exact ⟨rfl, rfl⟩
  | cons entry log ih => exact ⟨h.1, ih h.2⟩

section CallsOf

variable [DecidableEq Tid]

/-- The calls of one thread. -/
def callsOf (t : Tid) (log : List (Tid × Call × Verdict)) : List (Call × Verdict) :=
  log.filterMap fun entry => if entry.1 = t then some entry.2 else none

/-- A thread finds its calls in both parts of a log. -/
theorem callsOf_append (t : Tid) (log log' : List (Tid × Call × Verdict)) :
    callsOf t (log ++ log') = callsOf t log ++ callsOf t log' :=
  List.filterMap_append

/-- Its own entry is among them, -/
theorem callsOf_self (t : Tid) (call : Call) (verdict : Verdict) :
    callsOf t [(t, call, verdict)] = [(call, verdict)] := by
  simp [callsOf]

/-- and those of others are not. -/
theorem callsOf_of_ne {t : Tid} {log : List (Tid × Call × Verdict)}
    (h : ∀ entry ∈ log, entry.1 ≠ t) : callsOf t log = [] := by
  refine List.filterMap_eq_nil_iff.mpr fun entry hentry => ?_
  rw [if_neg (h entry hentry)]

end CallsOf

/-- The call that a thread is in, if it has counted. -/
def Thread.counting (th : Thread Mem Mutex Result Call) (counted : Option Verdict) :
    List (Call × Verdict) :=
  (th.active.bind fun running => counted.map fun verdict => (running.1, verdict)).toList

/-- A thread between its calls has none that has counted and is not over. -/
theorem Thread.counting_idle {th : Thread Mem Mutex Result Call} (h : th.active = none)
    (counted : Option Verdict) : th.counting counted = [] := by
  rw [counting, h]
  rfl

/-- Nor has one whose call has yet to count. -/
@[simp] theorem Thread.counting_none (th : Thread Mem Mutex Result Call) :
    th.counting (none : Option Verdict) = [] := by
  rw [counting]
  cases th.active <;> rfl

/-- A call that has counted is in the log before it is over. -/
theorem Thread.counting_some {th : Thread Mem Mutex Result Call} {call : Call}
    {prog : Prog Mem Mutex Result} (h : th.active = some (call, prog)) (verdict : Verdict) :
    th.counting (some verdict) = [(call, verdict)] := by
  rw [counting, h]
  rfl

/-- Moving on in a call makes no difference. -/
theorem Thread.counting_at {th : Thread Mem Mutex Result Call} {call : Call}
    {prog : Prog Mem Mutex Result} (h : th.active = some (call, prog))
    (next : Prog Mem Mutex Result) (counted : Option Verdict) :
    (th.at call next).counting counted = th.counting counted := by
  rw [counting, counting, h]
  rfl

/-- An entry of the log that says what a call ended with. -/
def Specification.Tells (entry : Call × Verdict) (ended : Call × Result) : Prop :=
  entry.1 = ended.1 ∧ ∀ verdict, S.verdict ended.1 ended.2 = some verdict → verdict = entry.2

/-- A log that accounts for all that has been seen: replayed, it leaves what the free mutexes show,
and for each thread it has the calls that are over, in their order and with their verdicts, and at
most the one that the thread is in. -/
structure Specification.Explains [DecidableEq Tid] (first : Abs)
    (c : Config Mem Mutex Result Call Tid) (log : List (Tid × Call × Verdict)) (last : Abs) :
    Prop where
  replays : S.Replays first log last
  shown : ∀ mutex, c.holder mutex = none → S.shows mutex c.mem last
  calls : ∀ t, ∃ done counted, callsOf t log = done ++ (c.thread t).counting counted ∧
    List.Forall₂ S.Tells done (c.thread t).finished

/-! ## Runs -/

/-- Where a run has got to: a log that explains it, and which calls have counted. -/
structure Specification.Linearized [DecidableEq Tid] (first : Abs)
    (c : Config Mem Mutex Result Call Tid) (log : List (Tid × Call × Verdict)) (abs : Abs)
    (counted : Tid → Option Verdict) : Prop where
  replays : S.Replays first log abs
  shown : ∀ mutex, c.holder mutex = none → S.shows mutex c.mem abs
  idle : ∀ t, (c.thread t).active = none → counted t = none
  linear : ∀ t call prog, (c.thread t).active = some (call, prog) →
    Linear S call prog (c.holds t) c.mem abs (counted t)
  calls : ∀ t, ∃ done, callsOf t log = done ++ (c.thread t).counting (counted t) ∧
    List.Forall₂ S.Tells done (c.thread t).finished

/-- What a specification takes for granted, at one point of a run. -/
structure Specification.Granted (c : Config Mem Mutex Result Call Tid) : Prop where
  unused : ∀ mutex, S.unused mutex c.mem → c.holder mutex = none
  relies : ∀ t call prog, (c.thread t).active = some (call, prog) →
    S.relies call prog (c.holds t) c.mem

variable {S} [DecidableEq Tid] {c c' : Config Mem Mutex Result Call Tid} {t : Tid} {first abs : Abs}
  {log : List (Tid × Call × Verdict)} {counted : Tid → Option Verdict}

/-- The invariant says more than the explanation: it says what each thread has left to do. -/
theorem Specification.Linearized.explains (h : S.Linearized first c log abs counted) :
    S.Explains first c log abs where
  replays := h.replays
  shown := h.shown
  calls t := (h.calls t).imp fun _ hdone => ⟨counted t, hdone⟩

/-- Nothing has been called, and every mutex shows what it should. -/
theorem linearized_start {mem : Mem} (hshown : ∀ mutex, S.shows mutex mem first)
    (calls : Tid → List Call) :
    S.Linearized first (Config.start mem calls) [] first fun _ => none where
  replays := rfl
  shown mutex _ := hshown mutex
  idle _ _ := rfl
  linear _ _ _ hactive := absurd hactive (Option.some_ne_none _).symm
  calls _ := ⟨[], rfl, .nil⟩

/-- A thread moves on. -/
theorem Specification.Linearized.advance (h : S.Linearized first c log abs counted) (t : Tid)
    (verdict : Option Verdict) {entries : List (Tid × Call × Verdict)} {abs' : Abs}
    (hreplays : S.Replays first (log ++ entries) abs')
    (hshown : ∀ mutex, c'.holder mutex = none → S.shows mutex c'.mem abs')
    (hthreads : ∀ u, u ≠ t → c'.thread u = c.thread u)
    (hholds : ∀ u, u ≠ t → c'.holds u = c.holds u)
    (hmem : ∀ u, u ≠ t → B.Agree (c.holds u) c.mem c'.mem)
    (habs : ∀ u, u ≠ t → S.Agree (c.holds u) abs abs')
    (hidle : (c'.thread t).active = none → verdict = none)
    (hlinear : ∀ call prog, (c'.thread t).active = some (call, prog) →
      Linear S call prog (c'.holds t) c'.mem abs' verdict)
    (hentries : ∀ entry ∈ entries, entry.1 = t)
    (hcalls : ∃ done, callsOf t (log ++ entries) = done ++ (c'.thread t).counting verdict ∧
      List.Forall₂ S.Tells done (c'.thread t).finished) :
    S.Linearized first c' (log ++ entries) abs' (Function.update counted t verdict) := by
  refine ⟨hreplays, hshown, fun u hu => ?_, fun u call prog hu => ?_, fun u => ?_⟩
  · by_cases hut : u = t
    · rw [hut] at hu
      rw [hut, Function.update_self]
      exact hidle hu
    · rw [hthreads u hut] at hu
      rw [Function.update_of_ne hut]
      exact h.idle u hu
  · by_cases hut : u = t
    · rw [hut] at hu
      rw [hut, Function.update_self]
      exact hlinear call prog hu
    · rw [hthreads u hut] at hu
      rw [Function.update_of_ne hut, hholds u hut]
      exact (h.linear u call prog hu).congr (hmem u hut) (habs u hut)
  · by_cases hut : u = t
    · rw [hut, Function.update_self]
      exact hcalls
    · have hnone : callsOf u entries = [] :=
        callsOf_of_ne fun entry hentry heq => hut (heq.symm.trans (hentries entry hentry))
      rw [Function.update_of_ne hut, hthreads u hut, callsOf_append, hnone, List.append_nil]
      exact h.calls u

variable [DecidableEq Mutex] {body : Call → Prog Mem Mutex Result}

/-- **One step.**  The log stays as it is, or the call of the thread counts and goes to its
end. -/
theorem Specification.Linearized.step [AddCommGroup M] (h : S.Linearized first c log abs counted)
    (hbody : ∀ call mem abs, Linear S call (body call) ∅ mem abs none)
    (tidy : c.Tidy) (hvalid : B.Valid c) (hsettled : Asserts (Settled B) c) (hgranted : S.Granted c)
    (taken : LockProgram.step body c t = some c') :
    ∃ entries abs' counted', S.Linearized first c' (log ++ entries) abs' counted' := by
  have hthreads : ∀ {c : Config Mem Mutex Result Call Tid} {th} u, u ≠ t →
      (c.setThread t th).thread u = c.thread u := fun u hut => Config.setThread_of_ne _ hut _
  have hreplays : S.Replays first (log ++ []) abs := by
    rw [List.append_nil]
    exact h.replays
  have hnothing : ∀ entry ∈ ([] : List (Tid × Call × Verdict)), entry.1 = t :=
    fun entry hentry => absurd hentry List.not_mem_nil
  -- a thread that goes on in its call, which does not count yet, or has counted before
  have hgoes : ∀ {call prog next}, (c.thread t).active = some (call, prog) →
      ∃ done, callsOf t (log ++ []) = done ++ ((c.thread t).at call next).counting (counted t) ∧
        List.Forall₂ S.Tells done ((c.thread t).at call next).finished := by
    intro call prog next hactive
    rw [List.append_nil, Thread.counting_at hactive]
    exact h.calls t
  rcases step_cases taken with ⟨call, rest, hactive, hpending, rfl⟩ | ⟨call, result, hactive, rfl⟩ |
    ⟨call, mutex, next, hactive, hfree, rfl⟩ | ⟨call, mutex, next, hactive, rfl⟩ |
    ⟨call, update, next, hactive, rfl⟩
  · refine ⟨[], abs, _, h.advance t none hreplays h.shown hthreads
      (fun _ _ => rfl) (fun u _ => .refl _ c.mem) (fun u _ => .refl _ abs) (fun _ => rfl)
      (fun call' prog hactive' => ?_) hnothing ?_⟩
    · rw [Config.setThread_self] at hactive'
      cases hactive'
      show Linear S call (body call) (c.holds t) c.mem abs none
      rw [tidy.idle t hactive]
      exact hbody call c.mem abs
    · obtain ⟨done, hlog, hdone⟩ := h.calls t
      rw [Thread.counting_idle hactive] at hlog
      rw [Config.setThread_self, List.append_nil, Thread.counting_none]
      exact ⟨done, hlog, hdone⟩
  · obtain ⟨verdict, hcounted, hverdict⟩ := h.linear t call _ hactive
    refine ⟨[], abs, _, h.advance t none hreplays h.shown hthreads
      (fun _ _ => rfl) (fun u _ => .refl _ c.mem) (fun u _ => .refl _ abs) (fun _ => rfl)
      (fun call' prog hactive' => ?_) hnothing ?_⟩
    · rw [Config.setThread_self] at hactive'
      cases hactive'
    · obtain ⟨done, hlog, hdone⟩ := h.calls t
      rw [hcounted, Thread.counting_some hactive] at hlog
      rw [Config.setThread_self, List.append_nil, Thread.counting_none]
      exact ⟨_, hlog.trans (List.append_nil _).symm,
        List.rel_append hdone (.cons ⟨rfl, hverdict⟩ .nil)⟩
  · have hnext := h.linear t call _ hactive c.mem abs (.refl _ c.mem) (.refl _ abs)
      (h.shown mutex hfree)
    refine ⟨[], abs, _, h.advance t (counted t) hreplays (fun mutex' hfree' => ?_)
      hthreads (fun u hut => Config.holds_lock_of_ne hfree hut) (fun u _ => .refl _ c.mem)
      (fun u _ => .refl _ abs) (fun hidle => ?_) (fun call' prog hactive' => ?_) hnothing ?_⟩
    · by_cases hmutex : mutex' = mutex
      · rw [hmutex]
        exact h.shown mutex hfree
      · exact h.shown mutex' ((Function.update_of_ne hmutex ..).symm.trans hfree')
    · rw [Config.setThread_self] at hidle
      cases hidle
    · rw [Config.setThread_self] at hactive'
      cases hactive'
      rw [← Config.holds_lock] at hnext
      exact hnext
    · rw [Config.setThread_self]
      exact hgoes hactive
  · obtain ⟨hmine, hshown, hnext⟩ := h.linear t call _ hactive
    refine ⟨[], abs, _, h.advance t (counted t) hreplays (fun mutex' hfree' => ?_)
      hthreads (fun u hut => Config.holds_unlock_of_ne hmine hut) (fun u _ => .refl _ c.mem)
      (fun u _ => .refl _ abs) (fun hidle => ?_) (fun call' prog hactive' => ?_) hnothing ?_⟩
    · by_cases hmutex : mutex' = mutex
      · rw [hmutex]
        exact hshown
      · exact h.shown mutex' ((Function.update_of_ne hmutex ..).symm.trans hfree')
    · rw [Config.setThread_self] at hidle
      cases hidle
    · rw [Config.setThread_self] at hactive'
      cases hactive'
      rw [← Config.holds_unlock] at hnext
      exact hnext
    · rw [Config.setThread_self]
      exact hgoes hactive
  · obtain ⟨debt, hsettles⟩ := hsettled t call _ hactive
    have hframe := (hsettles c.mem (.refl _ c.mem) (hvalid t)).1
    have hothers : ∀ u, u ≠ t → B.Agree (c.holds u) c.mem (update c.mem) :=
      fun u hut => hframe.agree (c.disjoint_holds hut)
    have hkept : ∀ {abs'}, S.Frame (c.holds t) abs abs' → ∀ mutex, c.holder mutex = none →
        S.shows mutex (update c.mem) abs' := by
      intro abs' habs mutex hfree
      have hmutex : mutex ∉ c.holds t := fun hmine =>
        absurd (hfree.symm.trans hmine) (Option.some_ne_none _).symm
      exact S.shows_congr (hframe mutex hmutex) (habs mutex hmutex) (h.shown mutex hfree)
    rcases h.linear t call _ hactive c.mem abs (.refl _ c.mem) (.refl _ abs)
      (hgranted.relies t call _ hactive) (fun mutex hunused => h.shown mutex
        (hgranted.unused mutex hunused)) with hnext | ⟨hcounted, habs, hnext⟩
    · refine ⟨[], abs, _, h.advance t (counted t) hreplays (hkept (.refl _ abs))
        hthreads (fun _ _ => rfl) hothers (fun u _ => .refl _ abs) (fun hidle => ?_)
        (fun call' prog hactive' => ?_) hnothing ?_⟩
      · rw [Config.setThread_self] at hidle
        cases hidle
      · rw [Config.setThread_self] at hactive'
        cases hactive'
        exact hnext
      · rw [Config.setThread_self]
        exact hgoes hactive
    · -- the access at which the call counts
      refine ⟨[(t, call, (S.apply call abs).1)], (S.apply call abs).2, _,
        h.advance t (some (S.apply call abs).1) (h.replays.snoc t call)
          (hkept habs) hthreads (fun _ _ => rfl) hothers
          (fun u hut => habs.agree (c.disjoint_holds hut)) (fun hidle => ?_)
          (fun call' prog hactive' => ?_) (fun entry hentry => ?_) ?_⟩
      · rw [Config.setThread_self] at hidle
        cases hidle
      · rw [Config.setThread_self] at hactive'
        cases hactive'
        exact hnext
      · rw [List.mem_singleton.mp hentry]
      · obtain ⟨done, hlog, hdone⟩ := h.calls t
        rw [hcounted, Thread.counting_none, List.append_nil] at hlog
        rw [Config.setThread_self, Thread.counting_at hactive, Thread.counting_some hactive,
          callsOf_append, callsOf_self, hlog]
        exact ⟨done, rfl, hdone⟩

/-- **Runs.**  From any point of a run on, the log grows at its end only. -/
theorem Specification.Linearized.exists_more [AddCommGroup M]
    (h : S.Linearized first c log abs counted)
    (hbody : ∀ call mem abs, Linear S call (body call) ∅ mem abs none)
    (hgood : ∀ {schedule c'}, Runs (LockProgram.step body) Always c schedule c' →
      c'.Tidy ∧ B.Valid c' ∧ Asserts (Settled B) c' ∧ S.Granted c') {schedule : List Tid}
    (run : Runs (LockProgram.step body) Always c schedule c') :
    ∃ entries abs' counted', S.Linearized first c' (log ++ entries) abs' counted' := by
  induction run with
  | nil =>
      refine ⟨[], abs, counted, ?_⟩
      rw [List.append_nil]
      exact h
  | snoc run _ taken ih =>
      obtain ⟨entries, abs', counted', h'⟩ := ih
      obtain ⟨tidy, hvalid, hsettled, hgranted⟩ := hgood run
      obtain ⟨entries', hnext⟩ := h'.step hbody tidy hvalid hsettled hgranted taken
      rw [List.append_assoc] at hnext
      exact ⟨entries ++ entries', hnext⟩

/-- **One call at a time.**  At any point of a run a log explains what has been seen, and at any
later point one that begins with it. -/
theorem exists_explains [AddCommGroup M] {mem : Mem} {calls : Tid → List Call}
    (hshown : ∀ mutex, S.shows mutex mem first)
    (hbody : ∀ call mem abs, Linear S call (body call) ∅ mem abs none)
    (hgood : ∀ {schedule c},
      Runs (LockProgram.step body) Always (Config.start mem calls) schedule c →
        c.Tidy ∧ B.Valid c ∧ Asserts (Settled B) c ∧ S.Granted c) {schedule more : List Tid}
    (run : Runs (LockProgram.step body) Always (Config.start mem calls) schedule c)
    (later : Runs (LockProgram.step body) Always c more c') :
    ∃ log entries last last', S.Explains first c log last ∧
      S.Explains first c' (log ++ entries) last' := by
  obtain ⟨log, last, counted, h⟩ :=
    (linearized_start (S := S) hshown calls).exists_more hbody hgood run
  obtain ⟨entries, last', counted', h'⟩ :=
    h.exists_more hbody (fun later => hgood (run.append later)) later
  exact ⟨[] ++ log, entries, last, last', h.explains, h'.explains⟩

end LockProgram
