import Brix.Foundation.Assertions
import Mathlib.Algebra.BigOperators.Group.Finset.Basic
import Mathlib.Data.Setoid.Basic

/-!
# Books that balance when a call is over

Two quantities of a memory are meant to agree, and a call changes them one after the other.
Give every access the weight by which it sets them apart.  Then a whole call weighs nothing,
and what a call in progress still owes is the weight of the rest of its code, run by itself
from the memory as it is (`owed`).

* `Books` — the weights, and what each mutex protects
* `Settles` — what the code touches, and what decides how much it owes, is protected by the
  mutexes that it holds, and nothing is owed in the end
* `sum_owed_step` — a step changes what its own call owes by its weight, and what the other
  calls owe not at all

### What is load-bearing

What a call owes is computed by running the rest of its code from the memory as it is, and that
memory is changed by others before the code gets to run.  `owed` is a good notion only because
this makes no difference (`Settles.congr`): what decides how much is owed lies under mutexes that
the call holds.  Given that, a step is a matter of its own call, and the sum over the threads
changes by what the access weighs.
-/

namespace LockProgram

universe u v

variable {Mem Mutex Result Call Tid : Type u} {M : Type v}

/-- The weights of a call's accesses, and what the mutexes protect: memories that a thread with
the mutex cannot tell apart, and what it can rely on while it holds some. -/
structure Books (Mem Mutex Call : Type u) (M : Type v) where
  weight : Call → Mem → Mem → M
  protects : Mutex → Setoid Mem
  valid : Set Mutex → Mem → Prop
  valid_mono : ∀ {held held' mem}, valid held mem → held' ⊆ held → valid held' mem

variable (B : Books Mem Mutex Call M)

/-- What the mutexes in hand protect is the same. -/
def Books.Agree (held : Set Mutex) (mem mem' : Mem) : Prop :=
  ∀ mutex ∈ held, B.protects mutex mem mem'

/-- What the other mutexes protect is the same. -/
def Books.Frame (held : Set Mutex) (mem mem' : Mem) : Prop :=
  ∀ mutex ∉ held, B.protects mutex mem mem'

section Agree

variable {B} {held held' : Set Mutex} {mem mem' mem'' : Mem}

/-- A memory agrees with itself. -/
theorem Books.Agree.refl (held : Set Mutex) (mem : Mem) : B.Agree held mem mem :=
  fun mutex _ => (B.protects mutex).refl mem

/-- To agree is transitive. -/
theorem Books.Agree.trans (h : B.Agree held mem mem') (h' : B.Agree held mem' mem'') :
    B.Agree held mem mem'' :=
  fun mutex hmem => (B.protects mutex).trans (h mutex hmem) (h' mutex hmem)

/-- Fewer mutexes protect less. -/
theorem Books.Agree.mono (h : B.Agree held mem mem') (hsub : held' ⊆ held) :
    B.Agree held' mem mem' :=
  fun mutex hmem => h mutex (hsub hmem)

/-- What one thread changes, the others have not locked. -/
theorem Books.Frame.agree (h : B.Frame held mem mem') (hdisjoint : Disjoint held' held) :
    B.Agree held' mem mem' :=
  fun mutex hmem => h mutex (Set.disjoint_left.mp hdisjoint hmem)

end Agree

/-! ## What is owed -/

variable [AddCommGroup M]

/-- What the accesses of the code weigh when it runs by itself. -/
def Prog.weight (w : Mem → Mem → M) : Prog Mem Mutex Result → Mem → M
  | .ret _, _ => 0
  | .lock _ next, mem => next.weight w mem
  | .unlock _ next, mem => next.weight w mem
  | .access update next, mem => w mem (update mem) + (next mem).weight w (update mem)

section Owed

variable (w : Call → Mem → Mem → M) (c : Config Mem Mutex Result Call Tid) (t : Tid)

/-- What the call of a thread still owes. -/
def owed : M :=
  match (c.thread t).active with
  | none => 0
  | some (call, prog) => prog.weight (w call) c.mem

/-- What the next step of a thread weighs. -/
def stepWeight : M :=
  match (c.thread t).active with
  | some (call, .access update _) => w call c.mem (update c.mem)
  | _ => 0

variable {w c t}

/-- A thread between its calls owes nothing. -/
theorem owed_idle (hactive : (c.thread t).active = none) : owed w c t = 0 := by
  rw [owed, hactive]

/-- One in a call owes what is left of it. -/
theorem owed_active {call : Call} {prog : Prog Mem Mutex Result}
    (hactive : (c.thread t).active = some (call, prog)) :
    owed w c t = prog.weight (w call) c.mem := by
  rw [owed, hactive]

/-- What a thread owes depends on its code and on the memory. -/
theorem owed_congr {c' : Config Mem Mutex Result Call Tid} (hthread : c'.thread t = c.thread t)
    (hmem : c'.mem = c.mem) : owed w c' t = owed w c t := by
  rw [owed, owed, hthread, hmem]

/-- What a thread owes that has just been set. -/
theorem owed_setThread [DecidableEq Tid] (th : Thread Mem Mutex Result Call) :
    owed w (c.setThread t th) t =
      match th.active with
      | none => 0
      | some (call, prog) => prog.weight (w call) c.mem := by
  rw [owed, Config.setThread_self]
  rfl

end Owed

/-- Code that owes `debt`, whatever others do to what it has not locked. -/
def Settles (call : Call) : Prog Mem Mutex Result → Set Mutex → Mem → M → Prop
  | .ret _, _, _, debt => debt = 0
  | .lock mutex next, held, mem, debt => ∀ mem', B.Agree held mem mem' → B.valid held mem' →
      B.valid (insert mutex held) mem' ∧ Settles call next (insert mutex held) mem' debt
  | .unlock mutex next, held, mem, debt => Settles call next (held \ {mutex}) mem debt
  | .access update next, held, mem, debt => ∀ mem', B.Agree held mem mem' → B.valid held mem' →
      B.Frame held mem' (update mem') ∧ B.valid held (update mem') ∧
        Settles call (next mem') held (update mem') (debt - B.weight call mem' (update mem'))

section Rules

variable {B} {held : Set Mutex} {mem mem' : Mem} {debt : M} {call : Call}
  {prog : Prog Mem Mutex Result}

/-- Others have moved, under other mutexes. -/
theorem Settles.congr (h : Settles B call prog held mem debt) (hagree : B.Agree held mem mem') :
    Settles B call prog held mem' debt := by
  induction prog generalizing held mem debt with
  | ret result => exact h
  | lock mutex next ih => exact fun mem'' hagree' => h mem'' (hagree.trans hagree')
  | unlock mutex next ih => exact ih h (hagree.mono Set.sdiff_subset)
  | access update next ih => exact fun mem'' hagree' => h mem'' (hagree.trans hagree')

/-- It owes what it weighs. -/
theorem Settles.weight_eq (h : Settles B call prog held mem debt) (hvalid : B.valid held mem) :
    prog.weight (B.weight call) mem = debt := by
  induction prog generalizing held mem debt with
  | ret result => exact h.symm
  | lock mutex next ih =>
      obtain ⟨hvalid', hnext⟩ := h mem (.refl held mem) hvalid
      exact ih hnext hvalid'
  | unlock mutex next ih => exact ih h (B.valid_mono hvalid Set.sdiff_subset)
  | access update next ih =>
      obtain ⟨-, hvalid', hnext⟩ := h mem (.refl held mem) hvalid
      rw [Prog.weight, ih mem hnext hvalid', add_sub_cancel]

end Rules

/-! ## Runs -/

/-- Every thread can rely on what its mutexes promise. -/
def Books.Valid (c : Config Mem Mutex Result Call Tid) : Prop := ∀ t, B.valid (c.holds t) c.mem

/-- The code of a call settles what it owes. -/
def Settled (call : Call) (prog : Prog Mem Mutex Result) (held : Set Mutex) (mem : Mem) : Prop :=
  ∃ debt, Settles B call prog held mem debt

variable {B} {body : Call → Prog Mem Mutex Result}

/-- Settled code is a proof outline. -/
theorem outline_settled (hbody : ∀ call mem, Settles B call (body call) ∅ mem 0) :
    Outline body (fun _ _ held mem => B.valid held mem) (Settled B) where
  begin call mem := ⟨0, hbody call mem⟩
  lock := by
    rintro call mutex next held mem ⟨debt, h⟩ hvalid
    exact ⟨debt, (h mem (.refl held mem) hvalid).2⟩
  unlock := by
    rintro call mutex next held mem ⟨debt, h⟩ -
    exact ⟨debt, h⟩
  access := by
    rintro call update next held mem ⟨debt, h⟩ hvalid
    exact ⟨_, (h mem (.refl held mem) hvalid).2.2⟩
  others := by
    rintro call update next held mem call' prog' held' ⟨debt, h⟩ hvalid hdisjoint ⟨debt', h'⟩
    exact ⟨debt', h'.congr ((h mem (.refl held mem) hvalid).1.agree hdisjoint)⟩

variable [DecidableEq Mutex] [DecidableEq Tid] {c c' : Config Mem Mutex Result Call Tid} {t u : Tid}

/-- The step of a thread pays for what its call owes. -/
theorem stepWeight_add_owed (hbody : ∀ call mem, Settles B call (body call) ∅ mem 0)
    (tidy : c.Tidy) (hvalid : B.Valid c) (taken : LockProgram.step body c t = some c') :
    stepWeight B.weight c t + owed B.weight c' t = owed B.weight c t := by
  rcases step_cases taken with ⟨call, rest, hactive, hpending, rfl⟩ | ⟨call, result, hactive, rfl⟩ |
    ⟨call, mutex, next, hactive, hfree, rfl⟩ | ⟨call, mutex, next, hactive, rfl⟩ |
    ⟨call, update, next, hactive, rfl⟩
  · have hempty : B.valid ∅ c.mem := tidy.idle t hactive ▸ hvalid t
    rw [owed_idle hactive, stepWeight, hactive, zero_add, owed_setThread]
    exact (hbody call c.mem).weight_eq hempty
  · rw [owed_active hactive, stepWeight, hactive, zero_add, owed_setThread]
    rfl
  · rw [owed_active hactive, stepWeight, hactive, zero_add, owed_setThread]
    rfl
  · rw [owed_active hactive, stepWeight, hactive, zero_add, owed_setThread]
    rfl
  · rw [owed_active hactive, stepWeight, hactive, owed_setThread]
    rfl

/-- What the others owe stays the same. -/
theorem owed_of_ne (hsettled : Asserts (Settled B) c) (hvalid : B.Valid c) (hvalid' : B.Valid c')
    (taken : LockProgram.step body c t = some c') (hut : u ≠ t) :
    owed B.weight c' u = owed B.weight c u := by
  have hthread := thread_of_ne_step taken hut
  rcases step_cases taken with ⟨call, rest, hactive, hpending, rfl⟩ | ⟨call, result, hactive, rfl⟩ |
    ⟨call, mutex, next, hactive, hfree, rfl⟩ | ⟨call, mutex, next, hactive, rfl⟩ |
    ⟨call, update, next, hactive, rfl⟩
  · exact owed_congr hthread rfl
  · exact owed_congr hthread rfl
  · exact owed_congr hthread rfl
  · exact owed_congr hthread rfl
  · rcases hidle : (c.thread u).active with _ | ⟨call', prog'⟩
    · rw [owed_idle hidle, owed_idle (hthread ▸ hidle)]
    · obtain ⟨debt, h⟩ := hsettled t call _ hactive
      obtain ⟨debt', h'⟩ := hsettled u call' prog' hidle
      have hframe := (h c.mem (.refl _ c.mem) (hvalid t)).1
      have hlater := h'.congr (hframe.agree (c.disjoint_holds hut))
      rw [owed_active hidle, owed_active (hthread ▸ hidle), h'.weight_eq (hvalid u)]
      exact hlater.weight_eq (hvalid' u)

/-- **One step.**  What all calls owe together goes down by the weight of the step. -/
theorem sum_owed_step [Fintype Tid] (hbody : ∀ call mem, Settles B call (body call) ∅ mem 0)
    (tidy : c.Tidy) (hsettled : Asserts (Settled B) c) (hvalid : B.Valid c) (hvalid' : B.Valid c')
    (taken : LockProgram.step body c t = some c') :
    stepWeight B.weight c t + ∑ u, owed B.weight c' u = ∑ u, owed B.weight c u := by
  have hothers : ∑ u ∈ Finset.univ.erase t, owed B.weight c' u
      = ∑ u ∈ Finset.univ.erase t, owed B.weight c u :=
    Finset.sum_congr rfl fun u hu =>
      owed_of_ne hsettled hvalid hvalid' taken (Finset.ne_of_mem_erase hu)
  rw [← Finset.add_sum_erase _ (owed B.weight c') (Finset.mem_univ t),
    ← Finset.add_sum_erase _ (owed B.weight c) (Finset.mem_univ t), hothers, ← add_assoc,
    stepWeight_add_owed hbody tidy hvalid taken]

end LockProgram
